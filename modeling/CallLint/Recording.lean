import CallLint.Forest.Layout
import CallLint.Session

/-!
# Recording

Building a configuration and linting with it tell of their work while they run. Here a run keeps a
record of what it has told and of what it has found, and every step adds to the record at the
moment at which it happens: a call that is left alone ends its check early, and an argument that is
not as expected is told of and then reported.

A run that fails keeps what was told before it failed.
-/

namespace CallLint

/-- The value of a field of an event. -/
inductive Field where
  | text (t : Text)
  | count (n : Nat)
  deriving DecidableEq, Repr

/-- The fields of an event, by name. -/
def Event.fields : Event → List (String × Field)
  | .configLoaded expectation ignore ignoreFunctions =>
    [("expectation", .text expectation.name.toList), ("ignore", .count ignore),
      ("ignore_functions", .count ignoreFunctions)]
  | .functionIgnored function => [("function", .text function)]
  | .singleArgumentIgnored function => [("function", .text function)]
  | .violated v =>
    [("property", .text v.property), ("function", .text v.function),
      ("argument", .text v.argument)]

/-- What a run has told and what it has found so far. -/
structure Record where
  events : Array Event
  violations : Array Violation
  deriving DecidableEq, Repr

namespace Record

/-- The record at the start of a run. -/
def empty : Record := ⟨#[], #[]⟩

/-- Tells of something. -/
def tell (e : Event) : StateM Record Unit :=
  modify fun r => { r with events := r.events.push e }

/-- Reports a violation. -/
def report (v : Violation) : StateM Record Unit :=
  modify fun r => { r with violations := r.violations.push v }

end Record

namespace Config

/-- Checks one argument of a call. -/
def checkArgument (c : Config) (property function : Text) (a : Argument) :
    StateM Record Unit := do
  match c.violation? property function a with
  | none => return
  | some v =>
    Record.tell (.violated v)
    Record.report v

/-- Checks one call. -/
def checkCall (c : Config) (property : Text) (call : Node) : StateM Record Unit := do
  if call.name.isEmpty || isNative call.name then return
  if c.ignoresFunction call.name then
    Record.tell (.functionIgnored call.name)
    return
  let arguments := arguments call
  if arguments.length = 1 && c.ignores .singleArgument then
    Record.tell (.singleArgumentIgnored call.name)
    return
  arguments.forM (c.checkArgument property call.name)

/-- Checks the calls of a value, in the order in which the walk through its layout meets them. -/
def check (c : Config) (property value : Text) : StateM Record Unit :=
  (Forest.parse value).layout.calls.forM fun e => c.checkCall property e.node

/-- Builds the configuration that options make, and tells of it. -/
def load (expectation : Text) (options : Options) :
    ExceptT Problem (StateM Record) Config := do
  let c ← ofOptions expectation options
  Record.tell c.loaded
  return c

end Config

namespace ConfigSource

/-- Builds the configuration that a source makes, and tells of it. -/
def load (source : ConfigSource) : ExceptT Problem (StateM Record) Config := do
  let setting ← source.setting
  Config.load setting.expectation (setting.options.getD .empty)

/-- Builds the configuration that a source makes, and lints the value of a property with it. -/
def check (source : ConfigSource) (property value : Text) :
    ExceptT Problem (StateM Record) Unit := do
  let c ← source.load
  c.check property value

/-- The record of a whole run, and the problem with the configuration if there is one. -/
def record (source : ConfigSource) (property value : Text) : Except Problem Unit × Record :=
  Id.run ((source.check property value).run.run .empty)

end ConfigSource

end CallLint
