import CallLint.Json.Value

/-!
# Options and settings

The options of the linter are two lists of texts: what to ignore, and which functions to ignore.
They are written in JSON as an object with the fields `ignore` and `ignoreFunctions`, or as a list
of the two in this order; what is missing is empty. A setting is an expectation alone, or a list of
an expectation and options.

Options by themselves are read straight from the text, and the first problem in the text is the one
that counts. A setting is read as a JSON value first, and then compared with the shapes that a
setting may have.
-/

namespace CallLint

open Json

/-- The options of the linter, before their entries are checked. -/
structure Options where
  ignore : List Text
  ignoreFunctions : List Text
  deriving DecidableEq, Repr

namespace Options

/-- No options. -/
def empty : Options := ⟨[], []⟩

/-- The name of the field for what to ignore. -/
def ignoreField : Text := "ignore".toList

/-- The name of the field for functions to ignore. -/
def functionsField : Text := "ignoreFunctions".toList

/-- The problem with a text where something else is expected. -/
def wrongType (expected : Expected) (t : Text) : Problem :=
  let found (r : Except Problem Found) : Problem :=
    match r with
    | .ok f => .invalidType f expected
    | .error p => p
  match t with
  | [] => .expectedValue
  | c :: t =>
    if c = 'n' then found ((readIdent ['u', 'l', 'l'] t).map fun _ => .null)
    else if c = 't' then found ((readIdent ['r', 'u', 'e'] t).map fun _ => .boolean true)
    else if c = 'f' then found ((readIdent ['a', 'l', 's', 'e'] t).map fun _ => .boolean false)
    else if c = '-' then found ((readNumber true t).map fun r => .number r.1)
    else if c.isDigit then found ((readNumber false (c :: t)).map fun r => .number r.1)
    else if c = '"' then found ((readString t).map fun r => .string r.1)
    else if c = '[' then .invalidType .sequence expected
    else if c = '{' then .invalidType .map expected
    else .expectedValue

/-- Reads the strings of a list, up to its end. -/
def readStringItems : Nat → Bool → Text → Except Problem (List Text × Text)
  | 0, _, _ => .error .endInList
  | bound + 1, first, t => do
    let (more, t) ← nextItem first t
    if more then
      match skipSpace t with
      | [] => .error .endInValue
      | '"' :: t => do
        let (s, t) ← readString t
        let (rest, t) ← readStringItems bound false t
        return (s :: rest, t)
      | t => .error (wrongType .string t)
    else return ([], t)

/-- Reads a list of strings. -/
def readStrings (t : Text) : Except Problem (List Text × Text) :=
  match skipSpace t with
  | [] => .error .endInValue
  | '[' :: t => readStringItems (t.length + 1) true t
  | t => .error (wrongType .sequence t)

/-- Reads the end of a list that holds no more items. -/
def readListEnd (t : Text) : Except Problem Text :=
  match skipSpace t with
  | [] => .error .endInList
  | ']' :: t => .ok t
  | ',' :: t =>
    match skipSpace t with
    | ']' :: _ => .error .trailingComma
    | _ => .error .trailingCharacters
  | _ => .error .trailingCharacters

/-- Reads options written as a list, after its opening bracket. -/
def readList (t : Text) : Except Problem (Options × Text) := do
  let (more, t) ← nextItem true t
  if more then
    let (ignore, t) ← readStrings t
    let (more, t) ← nextItem false t
    if more then
      let (functions, t) ← readStrings t
      return (⟨ignore, functions⟩, ← readListEnd t)
    else return (⟨ignore, []⟩, t)
  else return (empty, t)

/-- Reads options written as an object, after its opening brace and the fields read so far. -/
def readFields : Nat → Bool → Option (List Text) → Option (List Text) → Text →
    Except Problem (Options × Text)
  | 0, _, _, _, _ => .error .endInObject
  | bound + 1, first, ignore, functions, t => do
    let (more, t) ← nextKey first t
    if more then
      let (key, t) ← readString t
      if key = ignoreField then
        if ignore.isSome then .error (.duplicateField key)
        else
          let (items, t) ← readStrings (← readColon t)
          readFields bound false (some items) functions t
      else if key = functionsField then
        if functions.isSome then .error (.duplicateField key)
        else
          let (items, t) ← readStrings (← readColon t)
          readFields bound false ignore (some items) t
      else .error (.unknownField key)
    else return (⟨ignore.getD [], functions.getD []⟩, t)

/-- Reads options that make up a whole text. -/
def read (t : Text) : Except Problem Options := do
  let (options, rest) ←
    match skipSpace t with
    | [] => .error .endInValue
    | '[' :: t => readList t
    | '{' :: t => readFields (t.length + 1) true none none t
    | t => .error (wrongType .options t)
  checkEnd rest
  return options

/-- The strings of a list of strings. -/
def strings? : Json → Option (List Text)
  | .list items => items.mapM fun item =>
    match item with
    | .string s => some s
    | _ => none
  | _ => none

/-- The options in the members of an object, in addition to the fields found before. -/
def ofMembers? (ignore functions : Option (List Text)) : List (Text × Json) → Option Options
  | [] => some ⟨ignore.getD [], functions.getD []⟩
  | (key, value) :: members =>
    if key = ignoreField && ignore.isNone then
      (strings? value).bind fun items => ofMembers? (some items) functions members
    else if key = functionsField && functions.isNone then
      (strings? value).bind fun items => ofMembers? ignore (some items) members
    else none

/-- The options that a JSON value stands for. -/
def ofJson? : Json → Option Options
  | .list [] => some empty
  | .list [ignore] => (strings? ignore).map (⟨·, []⟩)
  | .list [ignore, functions] => do return ⟨← strings? ignore, ← strings? functions⟩
  | .object members => ofMembers? none none members
  | _ => none

end Options

/-- An expectation, and options if there are any. -/
structure Setting where
  expectation : Text
  options : Option Options
  deriving DecidableEq, Repr

namespace Setting

/-- The setting that a JSON value stands for. -/
def ofJson? : Json → Option Setting
  | .string expectation => some ⟨expectation, none⟩
  | .list [.string expectation, options] =>
    (Options.ofJson? options).map fun o => ⟨expectation, some o⟩
  | _ => none

/-- Reads a setting that makes up a whole text. Only a text that begins with a setting is looked at
to its end. -/
def read (t : Text) : Except Problem Setting := do
  let (value, rest) ← Json.read t
  match ofJson? value with
  | none => .error .noVariant
  | some setting =>
    checkEnd rest
    return setting

end Setting

end CallLint
