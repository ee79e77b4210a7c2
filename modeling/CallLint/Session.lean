import CallLint.Linter

/-!
# Sessions

A session keeps one configuration, which its steps change and use. A change that fails leaves the
configuration as it was.

* `build_eq`: a source makes the configuration that its setting makes.
* `after_of_answer_problem`: a step that fails leaves the configuration as it was.
-/

namespace CallLint

/-- A source from which a configuration is built. -/
inductive ConfigSource where
  | json (source : Text)
  | given (expectation : Text) (options : Options)
  deriving DecidableEq, Repr

/-- The configuration that a source makes. -/
def ConfigSource.build : ConfigSource → Except Problem Config
  | .json source => Config.ofJson source
  | .given expectation options => Config.ofOptions expectation options

/-- The setting that a source holds. -/
def ConfigSource.setting : ConfigSource → Except Problem Setting
  | .json source => (Setting.read source).mapError .json
  | .given expectation options => .ok ⟨expectation, some options⟩

/-- A source makes the configuration that its setting makes. -/
theorem ConfigSource.build_eq (source : ConfigSource) :
    source.build = source.setting >>= fun setting =>
      Config.ofOptions setting.expectation (setting.options.getD .empty) := by
  cases source with
  | given expectation options => rfl
  | json text =>
    rw [build, Config.ofJson, setting]
    cases Setting.read text with
    | error p => rfl
    | ok setting => rfl

/-- A change of the configuration. -/
inductive Change where
  /-- Begins anew with an expectation. -/
  | new (expectation : Text)
  /-- Builds a configuration. -/
  | load (source : ConfigSource)
  /-- Changes the expectation alone. -/
  | setExpectation (expectation : Text)
  | withIgnore (raw : Text)
  | withIgnoredFunction (raw : Text)
  deriving DecidableEq, Repr

/-- The configuration after a change. -/
def Change.apply (c : Config) : Change → Except Problem Config
  | .new raw => return Config.new (← Expectation.parse raw)
  | .load source => source.build
  | .setExpectation raw => return { c with expectation := ← Expectation.parse raw }
  | .withIgnore raw => return c.withIgnore (← IgnoreOption.parse raw)
  | .withIgnoredFunction raw => return c.withIgnoredFunction (← Matcher.parse raw)

/-- A step of a session. -/
inductive Step where
  | change (change : Change)
  /-- Asks whether calls of a function are ignored. -/
  | ignoresFunction (name : Text)
  /-- Lints a value. -/
  | lint (value : Text)
  deriving DecidableEq, Repr

/-- The answer to a step. -/
inductive Answer where
  | config (c : Config)
  | truth (b : Bool)
  | violations (vs : List Violation)
  | problem (p : Problem)
  deriving DecidableEq, Repr

namespace Step

/-- The configuration after a step. -/
def after (c : Config) : Step → Config
  | .change ch =>
    match ch.apply c with
    | .ok changed => changed
    | .error _ => c
  | _ => c

/-- The answer to a step. -/
def answer (c : Config) : Step → Answer
  | .change ch =>
    match ch.apply c with
    | .ok changed => .config changed
    | .error p => .problem p
  | .ignoresFunction name => .truth (c.ignoresFunction name)
  | .lint value => .violations (c.lint [] value)

/-- A step that fails leaves the configuration as it was. -/
theorem after_of_answer_problem {c : Config} {s : Step} {p : Problem}
    (h : s.answer c = .problem p) : s.after c = c := by
  cases s with
  | change ch =>
    simp only [answer] at h
    simp only [after]
    cases hch : ch.apply c with
    | ok changed => simp [hch] at h
    | error q => rfl
  | ignoresFunction name => rfl
  | lint value => rfl

end Step

namespace Session

/-- The configuration at the start of a session. -/
def initial : Config := Config.new .always

/-- The configuration after some steps. -/
def final (c : Config) (steps : List Step) : Config := steps.foldl Step.after c

/-- The answers to the steps of a session. -/
def answers (c : Config) : List Step → List Answer
  | [] => []
  | s :: steps => s.answer c :: answers (s.after c) steps

end Session

end CallLint
