import CallLint.Pattern.Syntax

/-!
# Expressions

What a pattern means once flags and character properties are worked out: an expression over atoms,
where an atom takes one character out of a set or tests the place where it stands.

* `Matches`: when an expression matches the stretch of a text between two places.
-/

namespace CallLint.Pattern

/-- A test of a place in a text, by the characters before and after it. -/
inductive Look where
  | textStart
  | textEnd
  | lineStart
  | lineEnd
  /-- The start of a line where `\r`, `\n` and both together end lines. -/
  | lineStartCrlf
  /-- The end of such a line. -/
  | lineEndCrlf
  /-- An edge of a word; `unicode` tells which characters words are made of. -/
  | word (edge : WordEdge) (unicode : Bool)
  deriving DecidableEq, Repr

/-- An atom of an expression. -/
inductive Atom where
  /-- One character out of a set. -/
  | one (set : CharSet)
  /-- No character, where the test holds. -/
  | look (l : Look)
  deriving DecidableEq, Repr

/-- An expression over atoms. -/
inductive Expr (α : Type) where
  /-- Matches the empty text. -/
  | empty
  | atom (a : α)
  | sequence (first rest : Expr α)
  | choice (first rest : Expr α)
  /-- At least `least` times and, with a bound, at most `most` times. -/
  | repeated (body : Expr α) (least : Nat) (most : Option Nat)
  /-- A group whose place is remembered. -/
  | group (body : Expr α)
  deriving DecidableEq, Repr

/-- The expression with other atoms. -/
def Expr.map {α β : Type} (f : α → β) : Expr α → Expr β
  | .empty => .empty
  | .atom a => .atom (f a)
  | .sequence first rest => .sequence (first.map f) (rest.map f)
  | .choice first rest => .choice (first.map f) (rest.map f)
  | .repeated body least most => .repeated (body.map f) least most
  | .group body => .group (body.map f)

/-- Whether a character belongs to words; outside Unicode mode only ASCII characters do. -/
def isWord (unicode : Bool) (c : Char) : Bool :=
  if unicode then Unicode.isWordChar c else c.isAlphanum || c = '_'

/-- Whether the test holds between the given characters; `none` stands for an end of the text. -/
def Look.holds (l : Look) (before after : Option Char) : Bool :=
  match l with
  | .textStart => before.isNone
  | .textEnd => after.isNone
  | .lineStart => before.isNone || before = some '\n'
  | .lineEnd => after.isNone || after = some '\n'
  | .lineStartCrlf =>
    before.isNone || before = some '\n' || (before = some '\r' && after ≠ some '\n')
  | .lineEndCrlf =>
    after.isNone || after = some '\r' || (after = some '\n' && before ≠ some '\r')
  | .word edge unicode =>
    let inWord (c : Option Char) : Bool := c.any (isWord unicode)
    match edge with
    | .boundary => inWord before != inWord after
    | .inside => inWord before == inWord after
    | .start => !inWord before && inWord after
    | .stop => inWord before && !inWord after
    | .startHalf => !inWord before
    | .stopHalf => !inWord after

/-- The expression matches the characters of `text` from place `i` up to place `j`. -/
inductive Matches (text : List Char) : Expr Atom → Nat → Nat → Prop where
  | empty (i : Nat) (h : i ≤ text.length) : Matches text .empty i i
  | one (i : Nat) (set : CharSet) (c : Char) (h : text[i]? = some c) (mem : set.contains c) :
    Matches text (.atom (.one set)) i (i + 1)
  | look (i : Nat) (l : Look) (h : i ≤ text.length)
    (holds : l.holds (if i = 0 then none else text[i - 1]?) text[i]?) :
    Matches text (.atom (.look l)) i i
  | sequence {first rest : Expr Atom} {i j k : Nat} (h₁ : Matches text first i j)
    (h₂ : Matches text rest j k) : Matches text (.sequence first rest) i k
  | first {first rest : Expr Atom} {i j : Nat} (h : Matches text first i j) :
    Matches text (.choice first rest) i j
  | rest {first rest : Expr Atom} {i j : Nat} (h : Matches text rest i j) :
    Matches text (.choice first rest) i j
  | stop {body : Expr Atom} {most : Option Nat} (i : Nat) (h : i ≤ text.length) :
    Matches text (.repeated body 0 most) i i
  | again {body : Expr Atom} {least : Nat} {most : Option Nat} {i j k : Nat}
    (room : most ≠ some 0) (h₁ : Matches text body i j)
    (h₂ : Matches text (.repeated body (least - 1) (most.map (· - 1))) j k) :
    Matches text (.repeated body least most) i k
  | group {body : Expr Atom} {i j : Nat} (h : Matches text body i j) :
    Matches text (.group body) i j

end CallLint.Pattern
