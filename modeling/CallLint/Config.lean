import CallLint.Matcher
import CallLint.Options

/-!
# Configurations

A configuration says what is expected of the arguments of calls, and which calls are left alone. It
is checked when it is built: the expectation first, then what to ignore, then the ignored functions,
each list from its start; the first problem counts.

* `parse_name`: an expectation, and what can be ignored, is read back from its name.
* `ignores_withIgnore`: what is ignored after one thing more is ignored.
-/

namespace CallLint

/-- What is expected of the arguments of a call. -/
inductive Expectation where
  /-- Every argument is named. -/
  | always
  /-- No argument is named. -/
  | never
  deriving DecidableEq, Repr

/-- The name of an expectation. -/
def Expectation.name : Expectation → String
  | .always => "always"
  | .never => "never"

/-- The expectation of a given name. -/
def Expectation.parse (raw : Text) : Except Problem Expectation :=
  if raw = Expectation.always.name.toList then .ok .always
  else if raw = Expectation.never.name.toList then .ok .never
  else .error (.expectation raw)

theorem Expectation.parse_name (e : Expectation) : parse e.name.toList = .ok e := by
  cases e <;> rfl

/-- What can be ignored. -/
inductive IgnoreOption where
  /-- Calls with a single argument. -/
  | singleArgument
  deriving DecidableEq, Repr

/-- The name of what can be ignored. -/
def IgnoreOption.name : IgnoreOption → String
  | .singleArgument => "single-argument"

/-- What can be ignored under a given name. -/
def IgnoreOption.parse (raw : Text) : Except Problem IgnoreOption :=
  if raw = IgnoreOption.singleArgument.name.toList then .ok .singleArgument
  else .error (.ignore raw)

theorem IgnoreOption.parse_name (o : IgnoreOption) : parse o.name.toList = .ok o := by
  cases o
  rfl

/-- A configuration of the linter. -/
structure Config where
  expectation : Expectation
  /-- What is ignored, without repetitions. -/
  ignore : List IgnoreOption
  /-- The matchers of the functions that are ignored. -/
  ignoreFunctions : List Matcher
  deriving DecidableEq, Repr

namespace Config

/-- A configuration that ignores nothing. -/
def new (expectation : Expectation) : Config := ⟨expectation, [], []⟩

/-- Ignores one thing more, unless it is ignored already. -/
def withIgnore (c : Config) (option : IgnoreOption) : Config :=
  if c.ignore.contains option then c else { c with ignore := c.ignore ++ [option] }

/-- Ignores the functions that one more matcher matches. -/
def withIgnoredFunction (c : Config) (m : Matcher) : Config :=
  { c with ignoreFunctions := c.ignoreFunctions ++ [m] }

/-- Whether something is ignored. -/
def ignores (c : Config) (option : IgnoreOption) : Bool := c.ignore.contains option

theorem ignores_withIgnore (c : Config) (added option : IgnoreOption) :
    (c.withIgnore added).ignores option = true ↔ option = added ∨ c.ignores option = true := by
  unfold withIgnore ignores
  split
  next h =>
    constructor
    · exact Or.inr
    · rintro (rfl | hopt)
      · exact h
      · exact hopt
  next h => simp [or_comm]

/-- Whether calls of a function are ignored. -/
def ignoresFunction (c : Config) (name : Text) : Bool :=
  c.ignoreFunctions.any fun m => m.isMatch name

/-- The configuration that options make. -/
def ofOptions (expectation : Text) (options : Options) : Except Problem Config := do
  let expectation ← Expectation.parse expectation
  let ignored ← options.ignore.foldlM
    (fun c raw => return withIgnore c (← IgnoreOption.parse raw)) (new expectation)
  options.ignoreFunctions.foldlM
    (fun c raw => return withIgnoredFunction c (← Matcher.parse raw)) ignored

/-- The configuration that a JSON text makes. -/
def ofJson (source : Text) : Except Problem Config :=
  match Setting.read source with
  | .error problem => .error (.json problem)
  | .ok setting => ofOptions setting.expectation (setting.options.getD .empty)

end Config

end CallLint
