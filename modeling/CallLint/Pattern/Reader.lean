import CallLint.Pattern.Scan

/-!
# Reading patterns

A pattern is read from left to right with a stack of what is still open: classes within brackets,
and groups around the part under way. Every step takes at least one character or ends the reading,
so a bound of one step more than there are characters is never reached. A malformed text gives
nothing.
-/

namespace CallLint.Pattern

open Text

/-! ## Bracketed classes -/

/-- What is open around the items of a class that are being read. -/
inductive OpenSet where
  /-- A bracket, with the items before it on its own level, from the last to the first. -/
  | bracket (outer : List SetSyntax) (negated : Bool)
  /-- An operator with its left side. -/
  | operation (operator : SetOperator) (left : SetSyntax)

/-- The names of the POSIX classes. -/
def posixNames : List (String × Posix) :=
  [("alnum", .alnum), ("alpha", .alpha), ("ascii", .ascii), ("blank", .blank), ("cntrl", .cntrl),
   ("digit", .digit), ("graph", .graph), ("lower", .lower), ("print", .print), ("punct", .punct),
   ("space", .space), ("upper", .upper), ("word", .word), ("xdigit", .xdigit)]

/-- Reads a POSIX class after its opening bracket, if there is one. -/
def readPosix (t : Text) : Option (SetSyntax × Text) :=
  match t with
  | ':' :: t =>
    let (negated, t) := match t with
      | '^' :: t => (true, t)
      | t => (false, t)
    match t.span (· ≠ ':') with
    | (name, ':' :: ']' :: t) =>
      (posixNames.find? fun entry => entry.1.toList = name).map fun entry =>
        (.posix entry.2 negated, t)
    | _ => none
  | _ => none

/-- Reads on after an opening bracket: whether the class is negated, the items that may stand only
at its start (any number of `-`, or else one `]`), from the last to the first, and the text after
them. -/
def readSetOpening (verbose : Bool) (t : Text) : Bool × List SetSyntax × Text :=
  let (negated, t) := match ignore verbose t with
    | '^' :: t => (true, ignore verbose t)
    | t => (false, t)
  match takeAll verbose (· = '-') t with
  | ([], ']' :: t) => (negated, [.char ']'], ignore verbose t)
  | (dashes, t) => (negated, dashes.map .char, t)

/-- Reads one item of a class, which is not a bracket. -/
def readSetPiece (verbose : Bool) : Text → Option (Piece × Text)
  | [] => none
  | '\\' :: t => readEscape verbose t
  | c :: t => some (.literal c false, t)

/-- The item of a class that a piece makes; a condition on the place makes none. -/
def Piece.toSet? : Piece → Option SetSyntax
  | .literal c _ => some (.char c)
  | .property query negated => some (.property query negated)
  | .shorthand kind negated => some (.shorthand kind negated)
  | .anchor _ => none

/-- The character that comes after the current one, as far as a `-` looks ahead: in verbose mode
white space does not count, and neither does a first `#`; if nothing is left then, the very next
character is taken after all. -/
def charAfter (verbose : Bool) (t : Text) : Option Char :=
  if verbose then
    let seen := match trimStart t with
      | '#' :: t => trimStart t
      | t => t
    if seen.isEmpty then t.head? else seen.head?
  else t.head?

/-- Reads an item of a class, or a range of characters. -/
def readSetItem (verbose : Bool) (t : Text) : Option (SetSyntax × Text) := do
  let (first, t) ← readSetPiece verbose t
  match ignore verbose t with
  | [] => none
  | '-' :: after =>
    if charAfter verbose after = some ']' || charAfter verbose after = some '-' then
      return (← first.toSet?, '-' :: after)
    else
      let (last, t) ← readSetPiece verbose (ignore verbose after)
      match first, last with
      | .literal lo _, .literal hi _ =>
        if lo.toNat ≤ hi.toNat then return (.range lo hi, t) else none
      | _, _ => none
  | t => return (← first.toSet?, t)

/-- The right side of the operators that are open directly around it, with what is open further
out. -/
def applyOperations (right : SetSyntax) : List OpenSet → SetSyntax × List OpenSet
  | .operation operator left :: opened => applyOperations (.operation operator left right) opened
  | opened => (right, opened)

/-- Reads the items of a class up to the `]` of its outermost bracket. `items` are the items read so
far on the innermost level, from the last to the first. -/
def readSet (verbose : Bool) : Nat → List OpenSet → List SetSyntax → Text →
    Option (Bool × SetSyntax × Text)
  | 0, _, _, _ => none
  | bound + 1, opened, items, t =>
    let operator (kind : SetOperator) (t : Text) :=
      let (left, opened) := applyOperations (.ofItems items) opened
      readSet verbose bound (.operation kind left :: opened) [] t
    match ignore verbose t with
    | [] => none
    | '[' :: t =>
      match readPosix t with
      | some (item, t) => readSet verbose bound opened (item :: items) t
      | none =>
        let (negated, first, t) := readSetOpening verbose t
        readSet verbose bound (.bracket items negated :: opened) first t
    | ']' :: t =>
      match applyOperations (.ofItems items) opened with
      | (body, [.bracket _ negated]) => some (negated, body, t)
      | (body, .bracket outer negated :: opened) =>
        readSet verbose bound opened (.bracket negated body :: outer) t
      | _ => none
    | '&' :: '&' :: t => operator .intersection t
    | '-' :: '-' :: t => operator .difference t
    | '~' :: '~' :: t => operator .symmetricDifference t
    | t =>
      match readSetItem verbose t with
      | some (item, t) => readSet verbose bound opened (item :: items) t
      | none => none

/-- Reads a class after its opening bracket. -/
def readBracket (verbose : Bool) (t : Text) : Option (Syntax × Text) :=
  let (negated, first, rest) := readSetOpening verbose t
  (readSet verbose (t.length + 1) [.bracket [] negated] first rest).map fun (negated, body, t) =>
    (.bracket negated body, t)

/-! ## Groups -/

/-- A level of a pattern that is being read. -/
structure Level where
  /-- The alternatives before the current one, from the last to the first. -/
  alternatives : List Syntax
  /-- The parts of the current alternative, from the last to the first. -/
  parts : List Syntax

/-- The pattern that a level makes. -/
def Level.finish (l : Level) : Syntax := .ofAlternatives (.ofParts l.parts) l.alternatives

/-- A group that is still open. -/
structure OpenGroup where
  captured : Bool
  changes : FlagChanges
  /-- Whether verbose mode was on before the group. -/
  verbose : Bool
  /-- The level around the group. -/
  outer : Level

/-- A pattern that is being read. -/
structure Reading where
  verbose : Bool
  /-- The names of the groups so far. -/
  names : List Text
  level : Level
  opened : List OpenGroup

namespace Reading

/-- Adds a part to the current alternative. -/
def add (r : Reading) (part : Syntax) : Reading :=
  { r with level := { r.level with parts := part :: r.level.parts } }

/-- Opens a group. -/
def openGroup (r : Reading) (captured : Bool) (changes : FlagChanges) : Reading :=
  { r with
    verbose := (settingOf .verbose changes).getD r.verbose
    level := ⟨[], []⟩
    opened := ⟨captured, changes, r.verbose, r.level⟩ :: r.opened }

/-- Closes the innermost group. -/
def closeGroup? (r : Reading) : Option Reading :=
  match r.opened with
  | [] => none
  | group :: opened =>
    some <| add ⟨group.verbose, r.names, group.outer, opened⟩
      (.group group.captured group.changes r.level.finish)

/-- Sets flags for the rest of the group. -/
def setFlags (r : Reading) (changes : FlagChanges) : Reading :=
  { r with verbose := (settingOf .verbose changes).getD r.verbose }.add (.flags changes)

/-- Repeats the last part. There has to be one, and flags cannot be repeated. -/
def repeat? (r : Reading) (least : Nat) (most : Option Nat) : Option Reading :=
  match r.level.parts with
  | [] => none
  | .flags _ :: _ => none
  | part :: parts =>
    some { r with level := { r.level with parts := .repeated part least most :: parts } }

/-- Begins a new alternative. -/
def alternate (r : Reading) : Reading :=
  { r with level := ⟨.ofParts r.level.parts :: r.level.alternatives, []⟩ }

end Reading

/-- The letters and numbers of all scripts that may stand in the name of a group. -/
def isNameChar (first : Bool) (c : Char) : Bool :=
  c = '_' || (!first && (c = '.' || c = '[' || c = ']')) || Unicode.isAlphabetic c ||
    (!first && Unicode.isNumeric c)

/-- Reads the name of a group up to its `>`. -/
def readName (t : Text) : Option (Text × Text) :=
  match t.span (· ≠ '>') with
  | ([], _) => none
  | (c :: name, '>' :: t) =>
    if isNameChar true c && name.all (isNameChar false) then some (c :: name, t) else none
  | _ => none

/-- Drops a mark that may follow a repetition. -/
def dropMark (mark : Char) : Text → Text
  | [] => []
  | c :: t => if c = mark then t else c :: t

/-- Reads on after the `(` of a group. -/
def readGroup (r : Reading) (t : Text) : Option (Reading × Text) :=
  let named (t : Text) :=
    match readName t with
    | none => none
    | some (name, t) =>
      if r.names.contains name then none
      else some ({ r with names := name :: r.names }.openGroup true [], t)
  match ignore r.verbose t with
  | '?' :: '=' :: _ => none
  | '?' :: '!' :: _ => none
  | '?' :: '<' :: '=' :: _ => none
  | '?' :: '<' :: '!' :: _ => none
  | '?' :: 'P' :: '<' :: t => named t
  | '?' :: '<' :: t => named t
  | '?' :: t =>
    match readFlags false [] t with
    | some ([], ')' :: _) => none
    | some (changes, ')' :: t) => some (r.setFlags changes, t)
    | some (changes, ':' :: t) => some (r.openGroup false changes, t)
    | _ => none
  | t => some (r.openGroup true [], t)

/-- The syntax of a piece outside brackets. -/
def Piece.toSyntax : Piece → Syntax
  | .literal c short => .literal c short
  | .anchor a => .anchor a
  | .property query negated => .property query negated
  | .shorthand kind negated => .shorthand kind negated

/-- Takes in the part of the pattern that begins with the character `c`. -/
def Reading.next (r : Reading) (c : Char) (t : Text) : Option (Reading × Text) :=
  match c with
  | '(' => readGroup r t
  | ')' => r.closeGroup?.map fun r => (r, t)
  | '|' => some (r.alternate, t)
  | '[' => (readBracket r.verbose t).map fun (part, t) => (r.add part, t)
  | '?' => (r.repeat? 0 (some 1)).map fun r => (r, dropMark '?' t)
  | '*' => (r.repeat? 0 none).map fun r => (r, dropMark '?' t)
  | '+' => (r.repeat? 1 none).map fun r => (r, dropMark '?' t)
  | '{' => do
    let ((least, most), t) ← readBounds r.verbose t
    let repeated ← r.repeat? least most
    return (repeated, dropMark '?' (ignore r.verbose t))
  | '\\' => (readEscape r.verbose t).map fun (piece, t) => (r.add piece.toSyntax, t)
  | '.' => some (r.add .dot, t)
  | '^' => some (r.add (.anchor .lineStart), t)
  | '$' => some (r.add (.anchor .lineEnd), t)
  | c => some (r.add (.literal c false), t)

/-- Reads the rest of a pattern. -/
def readRest : Nat → Reading → Text → Option Syntax
  | 0, _, _ => none
  | bound + 1, r, t =>
    match ignore r.verbose t with
    | [] => if r.opened.isEmpty then some r.level.finish else none
    | c :: t =>
      match r.next c t with
      | none => none
      | some (r, t) => readRest bound r t

/-- How deep a pattern may be nested. -/
def maxDepth : Nat := 250

/-- The syntax of a pattern, unless it is malformed or nested too deep. -/
def read? (source : Text) : Option Syntax :=
  match readRest (source.length + 1) ⟨false, [], ⟨[], []⟩, []⟩ source with
  | none => none
  | some s => if s.depth ≤ maxDepth then some s else none

end CallLint.Pattern
