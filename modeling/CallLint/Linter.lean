import CallLint.Argument
import CallLint.Config
import CallLint.Forest.Reader
import CallLint.Native

/-!
# Linting

Every call of a value is judged by itself: calls of native functions and bare parentheses are
exempt, then the configuration may leave the call alone, and else each of its arguments is judged by
whether it is named. Blank arguments do not count.

The violations and the events of a value are those of the outcomes of its calls. The run that tells
and reports step by step is in `Recording`.
-/

namespace CallLint

/-- What is wrong with an argument. -/
inductive ViolationKind where
  /-- It should be named. -/
  | expected
  /-- It should not be named. -/
  | rejected
  deriving DecidableEq, Repr

/-- The wording for a kind of violation. -/
def ViolationKind.message : ViolationKind → String
  | .expected => "a named parameter to be used in function call was expected"
  | .rejected => "a named parameter was unexpected in function call"

/-- The name of the rule. -/
def ruleName : String := "scss/at-function-named-arguments"

/-- An argument that is not as expected. -/
structure Violation where
  kind : ViolationKind
  property : Text
  function : Text
  /-- The argument, without white space around it. -/
  argument : Text
  deriving DecidableEq, Repr

/-- The text of a violation. -/
def Violation.display (v : Violation) : String := v.kind.message ++ " (" ++ ruleName ++ ")"

/-- What is wrong with an argument under an expectation, if anything. -/
def Expectation.judge (e : Expectation) (a : Argument) : Option ViolationKind :=
  match e with
  | .never => if a.isNamed then some .rejected else none
  | .always => if a.isNamed || a.hasVariableKey then none else some .expected

/-- What becomes of a call. -/
inductive Outcome where
  /-- The call has no name, or its function is native. -/
  | exempt
  /-- Calls of the function are ignored. -/
  | ignoredFunction (function : Text)
  /-- The call has a single argument, and such calls are ignored. -/
  | singleArgument (function : Text)
  /-- The arguments are judged. -/
  | judged (violations : List Violation)
  deriving DecidableEq, Repr

/-- Something that the linter tells about its work. -/
inductive Event where
  /-- A configuration was built. -/
  | configLoaded (expectation : Expectation) (ignore ignoreFunctions : Nat)
  | functionIgnored (function : Text)
  | singleArgumentIgnored (function : Text)
  | violated (v : Violation)
  deriving DecidableEq, Repr

namespace Outcome

/-- The violations of a call. -/
def violations : Outcome → List Violation
  | .judged vs => vs
  | _ => []

/-- What is told about a call. -/
def events : Outcome → List Event
  | .exempt => []
  | .ignoredFunction function => [.functionIgnored function]
  | .singleArgument function => [.singleArgumentIgnored function]
  | .judged vs => vs.map .violated

end Outcome

namespace Config

/-- The violation that an argument makes, if any. -/
def violation? (c : Config) (property function : Text) (a : Argument) : Option Violation :=
  (c.expectation.judge a).map fun kind => ⟨kind, property, function, Text.trim a.raw⟩

/-- The arguments of a call that count. -/
def arguments (call : Node) : List Argument := (Argument.split call.inner).filter (!·.isBlank)

/-- What becomes of a call. -/
def judge (c : Config) (property : Text) (call : Node) : Outcome :=
  if call.name.isEmpty || isNative call.name then .exempt
  else if c.ignoresFunction call.name then .ignoredFunction call.name
  else
    let arguments := arguments call
    if arguments.length = 1 && c.ignores .singleArgument then .singleArgument call.name
    else .judged (arguments.filterMap (c.violation? property call.name))

/-- What becomes of the calls of a value, in the order in which they begin. -/
def outcomes (c : Config) (property value : Text) : List Outcome :=
  (Forest.parse value).calls.map (c.judge property)

/-- The violations in the value of a property. -/
def lint (c : Config) (property value : Text) : List Violation :=
  (c.outcomes property value).flatMap Outcome.violations

/-- What is told while the value of a property is linted. -/
def log (c : Config) (property value : Text) : List Event :=
  (c.outcomes property value).flatMap Outcome.events

/-- What is told when a configuration has been built. -/
def loaded (c : Config) : Event :=
  .configLoaded c.expectation c.ignore.length c.ignoreFunctions.length

end Config

/-- A property with its value. -/
structure Declaration where
  property : Text
  value : Text
  deriving DecidableEq, Repr

/-- The violations in several declarations, one after the other. -/
def Config.lintAll (c : Config) (ds : List Declaration) : List Violation :=
  ds.flatMap fun d => c.lint d.property d.value

namespace Event

/-- How much an event matters. -/
inductive Level where
  | debug
  | trace
  deriving DecidableEq, Repr

/-- How much the event matters. -/
def level : Event → Level
  | .violated _ => .trace
  | _ => .debug

/-- The wording of an event. -/
def message : Event → String
  | .configLoaded .. => "at-function-named-arguments 配置已加载"
  | .functionIgnored _ => "函数在 ignoreFunctions 中，跳过检查"
  | .singleArgumentIgnored _ => "单参数调用，跳过检查"
  | .violated v => v.kind.message

end Event

end CallLint
