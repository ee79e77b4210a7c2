import CallLint.Text

/-!
# Keys

An argument is named when it begins with a key and a `:` or `=` after it. A key is an identifier,
with `$` or `@` in front if it has a sigil. An identifier is made of ASCII letters, digits, `_`,
`-`, characters outside ASCII, and escapes; a digit does not come first. An escape is a backslash
with one to six hexadecimal digits and at most one white space character after them, or with one
character that is neither a hexadecimal digit nor the end of a line.

* `run_append`: an identifier is a front part of the text.
-/

namespace CallLint.Key

open Text

/-- A character that stands for itself in an identifier. -/
def isNameChar (c : Char) : Bool := c.isAlphanum || c = '_' || c = '-' || 0x80 ≤ c.toNat

/-- Where the reading of an identifier is. -/
inductive Place where
  /-- Before the first character. -/
  | start
  /-- After a whole character or escape. -/
  | unit
  /-- After the backslash of an escape. -/
  | escaped
  /-- Among the hexadecimal digits of an escape, with room for so many more. -/
  | digits (room : Nat)
  deriving DecidableEq, Repr

namespace Place

/-- Takes a character that begins a new unit. -/
def begin (c : Char) : Option Place :=
  if c = '\\' then some .escaped else if isNameChar c then some .unit else none

/-- Takes one more character, if it belongs to the identifier. -/
def next (c : Char) : Place → Option Place
  | .start => if c.isDigit then none else begin c
  | .unit => begin c
  | .escaped =>
    if isHexDigit c then some (.digits 5)
    else if c = '\r' || c = '\n' then none
    else some .unit
  | .digits room =>
    if isHexDigit c && 0 < room then some (.digits (room - 1))
    else if isBlank c then some .unit
    else begin c

/-- Whether an identifier may end here. -/
def final : Place → Bool
  | .unit => true
  | .digits _ => true
  | _ => false

/-- Reads as far as the characters belong to an identifier: what was read, where the reading is
then, and the text after it. -/
def run (p : Place) : Text → Text × Place × Text
  | [] => ([], p, [])
  | c :: t =>
    match p.next c with
    | none => ([], p, c :: t)
    | some q =>
      let rest := run q t
      (c :: rest.1, rest.2)

theorem run_append (p : Place) (t : Text) : (p.run t).1 ++ (p.run t).2.2 = t := by
  induction t generalizing p with
  | nil => rfl
  | cons c t ih =>
    rw [run]
    split
    · rfl
    next q _ => simp [ih q]

end Place

/-- The longest identifier at the start of a text, and the text after it. -/
def identifier? (t : Text) : Option (Text × Text) :=
  match Place.start.run t with
  | (name, place, rest) => if place.final then some (name, rest) else none

/-- The text after white space and a separator of key and value. A doubled `=` compares two values
and separates nothing. -/
def value? (t : Text) : Option Text :=
  match trimStart t with
  | ':' :: value => some value
  | '=' :: '=' :: _ => none
  | '=' :: value => some value
  | _ => none

/-- The sigil of a key, if there is one, and the text after it. -/
def sigil : Text → Text × Text
  | '$' :: t => (['$'], t)
  | '@' :: t => (['@'], t)
  | t => ([], t)

/-- The key at the start of a text, and the text after its separator. -/
def read? (t : Text) : Option (Text × Text) :=
  match identifier? (sigil t).2 with
  | none => none
  | some (name, rest) => (value? rest).map fun value => ((sigil t).1 ++ name, value)

end CallLint.Key
