import CallLint.CharSet
import CallLint.Text

/-!
# Named sets of characters

The tables of character properties are texts of numbers: the lengths of the stretches of code
points outside and inside the set, by turns, from code point 0 on. Names are compared loosely:
ASCII case, white space, `_`, `-` and a leading `is` do not count.
-/

namespace CallLint.Unicode

/-- The decimal numbers in a text; any other character separates two numbers. `current` is the
number under way. -/
def numbers (current : Option Nat) : List Char → List Nat
  | [] => current.toList
  | c :: t =>
    if c.isDigit then numbers (some (current.getD 0 * 10 + (c.toNat - '0'.toNat))) t
    else current.toList ++ numbers none t

/-- The ranges inside the set, when the stretches outside and inside follow one another from the
code point `next` on. -/
def rangesFrom (next : Nat) : List Nat → List (Nat × Nat)
  | outside :: inside :: rest =>
    (next + outside, next + outside + inside - 1) :: rangesFrom (next + outside + inside) rest
  | _ => []

/-- A set of characters with its names. -/
structure NamedSet where
  names : List String
  stretches : String

/-- The characters of a named set. -/
def NamedSet.set (s : NamedSet) : CharSet :=
  .ofRanges (rangesFrom 0 (numbers none s.stretches.toList))

/-- The characters of a name that count. -/
def significant (name : Text) : Text :=
  (Text.lowerAscii name).filter fun c => c ≠ ' ' && c ≠ '_' && c ≠ '-' && c.toNat < 0x80

/-- A name in the form in which names are compared. The name `isc` keeps its beginning, since it is
not the name `c` with an `is` in front. -/
def looseName (name : Text) : Text :=
  match Text.lowerAscii name with
  | 'i' :: 's' :: rest =>
    if significant rest = ['c'] then ['i', 's', 'c'] else significant rest
  | _ => significant name

/-- Whether one of the names is the given one, itself in loose form. -/
def isCalled (names : List String) (loose : Text) : Bool :=
  names.any fun n => looseName n.toList = loose

/-- The set of a table that goes by the given name, itself in loose form. -/
def find? (table : List NamedSet) (loose : Text) : Option CharSet :=
  (table.find? fun s => isCalled s.names loose).map NamedSet.set

end CallLint.Unicode
