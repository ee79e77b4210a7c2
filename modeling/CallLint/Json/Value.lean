import CallLint.Json.Lexer

/-!
# JSON values

Any JSON text is read into a value. Lists and objects may be nested 127 deep. Members of an object
keep their order, and a key may occur more than once.
-/

namespace CallLint

/-- A JSON value. -/
inductive Json where
  | null
  | boolean (b : Bool)
  | number (n : Json.Number)
  | string (s : Text)
  | list (items : List Json)
  | object (members : List (Text × Json))

namespace Json

/-- Looks for the next item of a list: whether there is one, with the text where it begins, or
else the text after the list. -/
def nextItem (first : Bool) (t : Text) : Except Problem (Bool × Text) :=
  match skipSpace t with
  | [] => .error .endInList
  | ']' :: t => .ok (false, t)
  | c :: t =>
    if first then .ok (true, c :: t)
    else if c = ',' then
      match skipSpace t with
      | [] => .error .endInValue
      | ']' :: _ => .error .trailingComma
      | t => .ok (true, t)
    else .error .expectedListCommaOrEnd

/-- Looks for the next key of an object: whether there is one, with the text after its opening
quote, or else the text after the object. -/
def nextKey (first : Bool) (t : Text) : Except Problem (Bool × Text) :=
  match skipSpace t with
  | [] => .error .endInObject
  | '}' :: t => .ok (false, t)
  | c :: t =>
    if first then
      if c = '"' then .ok (true, t) else .error .keyMustBeString
    else if c = ',' then
      match skipSpace t with
      | [] => .error .endInValue
      | '"' :: t => .ok (true, t)
      | '}' :: _ => .error .trailingComma
      | _ => .error .keyMustBeString
    else .error .expectedObjectCommaOrEnd

/-- Reads the colon after a key. -/
def readColon (t : Text) : Except Problem Text :=
  match skipSpace t with
  | [] => .error .endInObject
  | ':' :: t => .ok t
  | _ => .error .expectedColon

mutual

/-- Reads a value. `depth` is how much deeper lists and objects may be nested; every call takes one
step of the bound. -/
def readValue : Nat → Nat → Text → Except Problem (Json × Text)
  | 0, _, _ => .error .recursionLimit
  | bound + 1, depth, t =>
    match skipSpace t with
    | [] => .error .endInValue
    | c :: t =>
      if c = 'n' then return (.null, ← readIdent ['u', 'l', 'l'] t)
      else if c = 't' then return (.boolean true, ← readIdent ['r', 'u', 'e'] t)
      else if c = 'f' then return (.boolean false, ← readIdent ['a', 'l', 's', 'e'] t)
      else if c = '-' then (readNumber true t).map fun (n, t) => (.number n, t)
      else if c.isDigit then (readNumber false (c :: t)).map fun (n, t) => (.number n, t)
      else if c = '"' then (readString t).map fun (s, t) => (.string s, t)
      else if c = '[' then
        match depth with
        | 0 => .error .recursionLimit
        | depth + 1 => (readItems bound depth true t).map fun (items, t) => (.list items, t)
      else if c = '{' then
        match depth with
        | 0 => .error .recursionLimit
        | depth + 1 =>
          (readMembers bound depth true t).map fun (members, t) => (.object members, t)
      else .error .expectedValue

/-- Reads the items of a list, up to its end. -/
def readItems : Nat → Nat → Bool → Text → Except Problem (List Json × Text)
  | 0, _, _, _ => .error .recursionLimit
  | bound + 1, depth, first, t => do
    let (more, t) ← nextItem first t
    if more then
      let (item, t) ← readValue bound depth t
      let (items, t) ← readItems bound depth false t
      return (item :: items, t)
    else return ([], t)

/-- Reads the members of an object, up to its end. -/
def readMembers : Nat → Nat → Bool → Text → Except Problem (List (Text × Json) × Text)
  | 0, _, _, _ => .error .recursionLimit
  | bound + 1, depth, first, t => do
    let (more, t) ← nextKey first t
    if more then
      let (key, t) ← readString t
      let (value, t) ← readValue bound depth (← readColon t)
      let (members, t) ← readMembers bound depth false t
      return ((key, value) :: members, t)
    else return ([], t)

end

/-- How deep lists and objects may be nested. -/
def maxDepth : Nat := 127

/-- Reads the value at the start of a text. Every step of the bound but the first takes a
character, or comes right after one that did. -/
def read (t : Text) : Except Problem (Json × Text) := readValue (2 * t.length + 1) maxDepth t

/-- Nothing but white space may follow a value. -/
def checkEnd (t : Text) : Except Problem Unit :=
  if (skipSpace t).isEmpty then .ok () else .error .trailingCharacters

end Json

end CallLint
