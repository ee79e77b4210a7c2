import CallLint.Text

/-!
# Cuts

The arguments of a call are separated by the commas and semicolons of the text between its
parentheses that stand outside strings, comments and inner parentheses. The text is scanned byte by
byte in its UTF-8 form: every byte with a meaning is an ASCII character, and a byte of a longer
character is never equal to one of them. A backslash takes the byte after it along.
-/

namespace CallLint

/-- What ends an argument. -/
inductive Separator where
  | comma
  | semicolon
  deriving DecidableEq, Repr

/-- The character of a separator. -/
def Separator.char : Separator → Char
  | .comma => ','
  | .semicolon => ';'

/-- A separator between two arguments, with the number of bytes before it. -/
structure Cut where
  offset : Nat
  separator : Separator
  deriving DecidableEq, Repr

namespace Cut

/-- What the scan is inside of. -/
inductive Mode where
  /-- Neither a string nor a comment. -/
  | plain
  /-- A string, with the byte of its quote. -/
  | quoted (mark : UInt8)
  | comment
  deriving DecidableEq, Repr

/-- Where the scan is. -/
structure State where
  mode : Mode
  /-- The number of open parentheses; a `)` too many leaves it at zero. -/
  depth : Nat
  /-- Whether the next byte is taken along by the byte before it. -/
  taken : Bool
  deriving DecidableEq, Repr

namespace State

/-- The state at the start of a text. -/
def start : State := ⟨.plain, 0, false⟩

/-- One byte of the scan: the state after it, and the separator if the byte is one. `ahead` is the
byte after it. -/
def step (s : State) (byte : UInt8) (ahead : Option UInt8) : State × Option Separator :=
  if s.taken then ({ s with taken := false }, none)
  else match s.mode with
    | .comment =>
      if byte = '*'.toUInt8 && ahead = some '/'.toUInt8 then
        ({ s with mode := .plain, taken := true }, none)
      else (s, none)
    | .quoted mark =>
      if byte = '\\'.toUInt8 then ({ s with taken := true }, none)
      else if byte = mark then ({ s with mode := .plain }, none)
      else (s, none)
    | .plain =>
      if byte = '\\'.toUInt8 then ({ s with taken := true }, none)
      else if byte = '/'.toUInt8 && ahead = some '*'.toUInt8 then
        ({ s with mode := .comment, taken := true }, none)
      else if byte = '\''.toUInt8 || byte = '"'.toUInt8 then ({ s with mode := .quoted byte }, none)
      else if byte = '('.toUInt8 then ({ s with depth := s.depth + 1 }, none)
      else if byte = ')'.toUInt8 then ({ s with depth := s.depth - 1 }, none)
      else if byte = ','.toUInt8 && s.depth = 0 then (s, some .comma)
      else if byte = ';'.toUInt8 && s.depth = 0 then (s, some .semicolon)
      else (s, none)

end State

/-- The cuts of the bytes that begin at the given offset, and the state after them. -/
def scan (s : State) (offset : Nat) : List UInt8 → List Cut × State
  | [] => ([], s)
  | byte :: bytes =>
    let stepped := s.step byte bytes.head?
    let rest := scan stepped.1 (offset + 1) bytes
    match stepped.2 with
    | none => rest
    | some separator => (⟨offset, separator⟩ :: rest.1, rest.2)

/-- The cuts of a text. -/
def cuts (t : Text) : List Cut := (scan .start 0 (Text.utf8 t)).1

end Cut

end CallLint
