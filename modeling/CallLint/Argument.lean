import CallLint.Argument.Cut
import CallLint.Argument.Key

/-!
# Arguments

The arguments of a call are the pieces of the text between its parentheses. Comments before an
argument do not count; what is left is either a value alone or a key, a separator and a value.

* `split_eq_nil_iff`: only a text of nothing but white space has no arguments.
-/

namespace CallLint

open Text

/-- One argument of a call. -/
structure Argument where
  /-- The key of a named argument. -/
  key : Option Text
  /-- The text of the value, without white space around it. -/
  value : Text
  /-- The whole piece of text, as it stands between the separators. -/
  raw : Text
  /-- The separator after it; only the last argument has none. -/
  separator : Option Separator
  deriving DecidableEq, Repr

namespace Argument

/-- The text after the comments at its start, each with the white space after it. A comment without
an end takes all the rest. `inside` tells whether the text begins within a comment. -/
def dropComments (inside : Bool) : Text → Text
  | [] => []
  | '*' :: '/' :: t => if inside then dropComments false t else '*' :: '/' :: t
  | '/' :: '*' :: t => if inside then dropComments true ('*' :: t) else dropComments true t
  | c :: t =>
    if inside then dropComments true t
    else if isBlank c then dropComments false t
    else c :: t

/-- The argument that a piece of text makes. -/
def ofPiece (raw : Text) (separator : Option Separator) : Argument :=
  let body := dropComments false (trim raw)
  match Key.read? body with
  | some (key, value) => ⟨some key, trim value, raw, separator⟩
  | none => ⟨none, body, raw, separator⟩

/-- Whether the argument has a key. -/
def isNamed (a : Argument) : Bool := a.key.isSome

/-- Whether the key is a variable. -/
def hasVariableKey (a : Argument) : Bool :=
  match a.key with
  | some ('$' :: _) => true
  | _ => false

/-- Whether there is nothing in the argument, comments apart. -/
def isBlank (a : Argument) : Bool := a.key.isNone && a.value.isEmpty

/-- The pieces of a text that begins at the given offset, each with the separator after it. -/
def pieces (offset : Nat) (t : Text) : List Cut → List (Text × Option Separator)
  | [] => [(t, none)]
  | cut :: cuts =>
    let piece := splitBytes (cut.offset - offset) t
    (piece.1, some cut.separator) :: pieces (cut.offset + 1) (piece.2.drop 1) cuts

/-- The arguments in the text between the parentheses of a call. -/
def split (t : Text) : List Argument :=
  if t.all Text.isBlank then []
  else (pieces 0 t (Cut.cuts t)).map fun piece => ofPiece piece.1 piece.2

theorem pieces_ne_nil (offset : Nat) (t : Text) (cuts : List Cut) : pieces offset t cuts ≠ [] := by
  cases cuts <;> simp [pieces]

theorem split_eq_nil_iff (t : Text) : split t = [] ↔ ∀ c ∈ t, Text.isBlank c = true := by
  unfold split
  split
  next h => simpa using h
  next h =>
    constructor
    · intro hnil
      exact absurd (List.map_eq_nil_iff.1 hnil) (pieces_ne_nil _ _ _)
    · intro hall
      exact absurd (List.all_eq_true.2 hall) h

end Argument

end CallLint
