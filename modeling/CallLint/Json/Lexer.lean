import CallLint.Json.Problem

/-!
# The small pieces of JSON

White space, the literal names, strings and numbers. Every reader takes the text from where it
stands, and gives what it read with the text after it, or the first problem that it meets.

* `bind_eq_ok_iff`: readers one after the other succeed if each of them does.
-/

namespace CallLint

/-- One step after the other succeeds if both do. -/
theorem bind_eq_ok_iff {α β ε : Type} {x : Except ε α} {f : α → Except ε β} {b : β} :
    x >>= f = .ok b ↔ ∃ a, x = .ok a ∧ f a = .ok b := by
  cases x with
  | error problem => exact iff_of_false (fun h => by cases h) fun ⟨_, h, _⟩ => by cases h
  | ok a =>
    constructor
    · exact fun h => ⟨a, rfl, h⟩
    · rintro ⟨a', ha', h⟩
      obtain rfl := Except.ok.inj ha'
      exact h

theorem map_eq_ok_iff {α β ε : Type} {x : Except ε α} {f : α → β} {b : β} :
    x.map f = .ok b ↔ ∃ a, x = .ok a ∧ f a = b := by
  cases x <;> simp [Except.map]

namespace Json

open Text

/-- White space of JSON. -/
def isSpace (c : Char) : Bool := c = ' ' || c = '\t' || c = '\n' || c = '\r'

/-- The text without the white space at its start. -/
def skipSpace (t : Text) : Text := t.dropWhile isSpace

/-- Reads the rest of a literal name. -/
def readIdent : Text → Text → Except Problem Text
  | [], t => .ok t
  | _ :: _, [] => .error .endInValue
  | e :: es, c :: t => if c = e then readIdent es t else .error .expectedIdent

/-- Reads four hexadecimal digits. The text has to hold at least four more bytes. -/
def readHex (t : Text) : Except Problem (Nat × Text) :=
  match t with
  | a :: b :: c :: d :: rest =>
    if [a, b, c, d].all isHexDigit then
      .ok ([a, b, c, d].foldl (fun n x => n * 16 + hexValue x) 0, rest)
    else .error .invalidEscape
  | _ => if byteLength t < 4 then .error .endInString else .error .invalidEscape

/-- The escapes of one letter. -/
def letterEscapes : List (Char × Char) :=
  [('"', '"'), ('\\', '\\'), ('/', '/'), ('b', '\x08'), ('f', '\x0C'), ('n', '\n'), ('r', '\r'),
   ('t', '\t')]

/-- The first half of a character beyond the first 2 ^ 16. -/
def isLeading (n : Nat) : Bool := 0xD800 ≤ n && n ≤ 0xDBFF

/-- The second half of such a character. -/
def isTrailing (n : Nat) : Bool := 0xDC00 ≤ n && n ≤ 0xDFFF

/-- Reads an escape by code point, after its `u`. A character in two halves takes two escapes. -/
def readCodePoint (t : Text) : Except Problem (Char × Text) := do
  let (n, t) ← readHex t
  if isTrailing n then .error .loneSurrogate
  else if isLeading n then
    match t with
    | [] => .error .endInString
    | '\\' :: t =>
      match t with
      | [] => .error .endInString
      | 'u' :: t => do
        let (m, t) ← readHex t
        if isTrailing m then
          return (Char.ofNat ((n - 0xD800) * 0x400 + (m - 0xDC00) + 0x10000), t)
        else .error .loneSurrogate
      | _ => .error .unexpectedEndOfHexEscape
    | _ => .error .unexpectedEndOfHexEscape
  else return (Char.ofNat n, t)

/-- Reads an escape, after its backslash. -/
def readEscape (t : Text) : Except Problem (Char × Text) :=
  match t with
  | [] => .error .endInString
  | 'u' :: t => readCodePoint t
  | c :: t =>
    match letterEscapes.find? fun e => e.1 = c with
    | some (_, d) => .ok (d, t)
    | none => .error .invalidEscape

/-- Reads a string after its opening quote. Every round takes at least one character. -/
def readStringRest : Nat → Text → Except Problem (Text × Text)
  | 0, _ => .error .endInString
  | _, [] => .error .endInString
  | bound + 1, c :: t =>
    if c = '"' then .ok ([], t)
    else if c = '\\' then do
      let (d, t) ← readEscape t
      let (s, t) ← readStringRest bound t
      return (d :: s, t)
    else if c.toNat < 0x20 then .error .controlCharacter
    else do
      let (s, t) ← readStringRest bound t
      return (c :: s, t)

/-- Reads a string after its opening quote. -/
def readString (t : Text) : Except Problem (Text × Text) := readStringRest (t.length + 1) t

/-- Reads at least one digit. -/
def readDigits (t : Text) : Except Problem (Text × Text) :=
  match t.span Char.isDigit with
  | ([], []) => .error .endInValue
  | ([], _) => .error .invalidNumber
  | (ds, t) => .ok (ds, t)

/-- Reads the digits before the point: a zero alone, or digits that do not begin with zero. -/
def readWhole (t : Text) : Except Problem (Text × Text) :=
  match t with
  | '0' :: d :: t => if d.isDigit then .error .invalidNumber else .ok (['0'], d :: t)
  | t => readDigits t

/-- Reads the point and the digits after it, if there is a point. -/
def readFraction (t : Text) : Except Problem (Option Text × Text) :=
  match t with
  | '.' :: t => (readDigits t).map fun (ds, t) => (some ds, t)
  | t => .ok (none, t)

/-- Reads the exponent, if there is one. -/
def readExponent (t : Text) : Except Problem (Option Int × Text) :=
  let signed (negative : Bool) (t : Text) : Except Problem (Option Int × Text) :=
    (readDigits t).map fun (ds, t) =>
      let n : Nat := ds.foldl (fun n d => n * 10 + hexValue d) 0
      (some (if negative then -(n : Int) else n), t)
  match t with
  | c :: t =>
    if c = 'e' || c = 'E' then
      match t with
      | '+' :: t => signed false t
      | '-' :: t => signed true t
      | t => signed false t
    else .ok (none, c :: t)
  | [] => .ok (none, [])

/-- Reads a number after its sign. -/
def readNumber (negative : Bool) (t : Text) : Except Problem (Number × Text) := do
  let (whole, t) ← readWhole t
  let (fraction, t) ← readFraction t
  let (exponent, t) ← readExponent t
  match (NumberText.mk negative whole fraction exponent).value? with
  | some n => return (n, t)
  | none => .error .numberOutOfRange

end Json

end CallLint
