import CallLint.Pattern.Meaning
import CallLint.Pattern.Reader
import CallLint.Pattern.Search
import CallLint.Pattern.Size

/-!
# Patterns

A pattern is read from its source under a few options, and then looked for anywhere in a name. It
is refused when it is malformed or when it would grow too large.

* `compile_source`: a pattern keeps the source that it was read from.
-/

namespace CallLint

/-- The options that a pattern is read under. -/
structure PatternOptions where
  ignoreCase : Bool
  multiLine : Bool
  dotAll : Bool
  deriving DecidableEq, Repr

/-- The flags in force at the start of a pattern. -/
def PatternOptions.flags (o : PatternOptions) : Pattern.Flags :=
  ⟨o.ignoreCase, o.multiLine, o.dotAll, true, false⟩

/-- A pattern that has been read. -/
structure Pattern where
  source : Text
  expr : Pattern.Expr Pattern.Atom
  deriving DecidableEq, Repr

/-- Why a pattern is refused. -/
inductive PatternFault where
  | malformed
  | tooLarge
  deriving DecidableEq, Repr

namespace Pattern

/-- Reads a pattern. -/
def compile (options : PatternOptions) (source : Text) : Except PatternFault Pattern :=
  match (read? source).bind fun s => s.expr? options.flags with
  | none => .error .malformed
  | some (expr, _) => if expr.size ≤ maxSize then .ok ⟨source, expr⟩ else .error .tooLarge

theorem compile_source {options : PatternOptions} {source : Text} {p : Pattern}
    (h : compile options source = .ok p) : p.source = source := by
  unfold compile at h
  split at h
  · simp at h
  · split at h
    · obtain rfl := Except.ok.inj h
      rfl
    · simp at h

/-- Whether the pattern occurs in a name. -/
def occursIn (p : Pattern) (name : Text) : Bool := p.expr.occursIn name

end Pattern

end CallLint
