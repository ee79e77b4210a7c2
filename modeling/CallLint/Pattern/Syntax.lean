import CallLint.Unicode.Query

/-!
# The syntax of patterns

A pattern as it is written, before flags and character properties are looked up. Sequences,
alternatives and the items of a bracketed class are chains to the right: the left part of a chain
link is never a link of the same chain.

* `Syntax.depth` counts how deep a pattern is nested, a whole chain as one level.
-/

namespace CallLint.Pattern

/-- The flags that a pattern may set. -/
inductive Flag where
  | ignoreCase
  | multiLine
  | dotAll
  | swapGreed
  | unicode
  | crlf
  | verbose
  deriving DecidableEq, Repr

/-- A list of flags to set or to clear. -/
abbrev FlagChanges := List (Flag × Bool)

/-- The classes of one letter, `d`, `s` and `w`. -/
inductive Shorthand where
  | digit
  | blank
  | word
  deriving DecidableEq, Repr

/-- The named classes of ASCII characters. -/
inductive Posix where
  | alnum
  | alpha
  | ascii
  | blank
  | cntrl
  | digit
  | graph
  | lower
  | print
  | punct
  | space
  | upper
  | word
  | xdigit
  deriving DecidableEq, Repr

/-- The operators between the parts of a bracketed class. -/
inductive SetOperator where
  | intersection
  | difference
  | symmetricDifference
  deriving DecidableEq, Repr

/-- What stands between the brackets of a class. -/
inductive SetSyntax where
  /-- No items. -/
  | empty
  | char (c : Char)
  | range (lo hi : Char)
  | posix (kind : Posix) (negated : Bool)
  | property (query : Unicode.Query) (negated : Bool)
  | shorthand (kind : Shorthand) (negated : Bool)
  /-- A class within brackets of its own. -/
  | bracket (negated : Bool) (body : SetSyntax)
  /-- An item and the items after it. -/
  | union (first rest : SetSyntax)
  | operation (operator : SetOperator) (left right : SetSyntax)
  deriving DecidableEq, Repr

/-- The kinds of word boundary. -/
inductive WordEdge where
  /-- Between a word character and another, or an end of the text. -/
  | boundary
  /-- Anywhere else. -/
  | inside
  /-- Before a word. -/
  | start
  /-- After a word. -/
  | stop
  /-- Not after a word character. -/
  | startHalf
  /-- Not before a word character. -/
  | stopHalf
  deriving DecidableEq, Repr

/-- A condition on a place in the text. -/
inductive Anchor where
  /-- The start of the text or, with the flag for it, of a line. -/
  | lineStart
  /-- The end of the text or, with the flag for it, of a line. -/
  | lineEnd
  | textStart
  | textEnd
  | word (edge : WordEdge)
  deriving DecidableEq, Repr

/-- A pattern as written. -/
inductive Syntax where
  /-- Nothing. -/
  | empty
  /-- Flags for the rest of the group. -/
  | flags (changes : FlagChanges)
  /-- A character; `short` tells whether it is written with two hexadecimal digits. -/
  | literal (c : Char) (short : Bool)
  /-- Any character. -/
  | dot
  | anchor (a : Anchor)
  | property (query : Unicode.Query) (negated : Bool)
  | shorthand (kind : Shorthand) (negated : Bool)
  | bracket (negated : Bool) (body : SetSyntax)
  /-- At least `least` times and, with a bound, at most `most` times. -/
  | repeated (body : Syntax) (least : Nat) (most : Option Nat)
  /-- A group, captured or with flags of its own. -/
  | group (captured : Bool) (changes : FlagChanges) (body : Syntax)
  /-- A part and the parts after it. -/
  | sequence (first rest : Syntax)
  /-- An alternative and the alternatives after it. -/
  | choice (first rest : Syntax)
  deriving DecidableEq, Repr

namespace SetSyntax

/-- The items of a class, given from the last to the first. -/
def ofItems : List SetSyntax → SetSyntax
  | [] => .empty
  | item :: items => items.foldl (fun rest first => .union first rest) item

/-- How deep the class is nested. -/
def depth : SetSyntax → Nat
  | .bracket _ body => body.depth + 1
  | .union first rest =>
    match rest with
    | .union .. => max (first.depth + 1) rest.depth
    | _ => max first.depth rest.depth + 1
  | .operation _ left right => max left.depth right.depth + 1
  | _ => 0

end SetSyntax

namespace Syntax

/-- The parts of a sequence, given from the last to the first. -/
def ofParts : List Syntax → Syntax
  | [] => .empty
  | part :: parts => parts.foldl (fun rest first => .sequence first rest) part

/-- A last alternative and the alternatives before it, given from the last to the first. -/
def ofAlternatives (last : Syntax) (others : List Syntax) : Syntax :=
  others.foldl (fun rest first => .choice first rest) last

/-- How deep the pattern is nested. -/
def depth : Syntax → Nat
  | .bracket _ body => body.depth + 1
  | .repeated body _ _ => body.depth + 1
  | .group _ _ body => body.depth + 1
  | .sequence first rest =>
    match rest with
    | .sequence .. => max (first.depth + 1) rest.depth
    | _ => max first.depth rest.depth + 1
  | .choice first rest =>
    match rest with
    | .choice .. => max (first.depth + 1) rest.depth
    | _ => max first.depth rest.depth + 1
  | _ => 0

end Syntax

end CallLint.Pattern
