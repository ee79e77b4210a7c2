import CallLint.Pattern.Syntax

/-!
# Scanning patterns

The small pieces of a pattern: what verbose mode ignores, numbers, escapes, flags and names. Every
reader takes the text from where it stands and gives what it read with the text after it, or
nothing if the text is malformed. With the verbose flag, white space and comments (from `#` to the
end of the line) are skipped after every character that is read one by one.

* `ignore_length_le`: skipping never adds to the text.
-/

namespace CallLint.Pattern

open Text

/-- Drops white space and comments; `inside` tells whether the text begins within a comment. -/
def dropIgnored (inside : Bool) : Text → Text
  | [] => []
  | c :: t =>
    if inside then dropIgnored (c ≠ '\n') t
    else if isBlank c then dropIgnored false t
    else if c = '#' then dropIgnored true t
    else c :: t

/-- Drops what does not count: in verbose mode white space and comments, else nothing. -/
def ignore (verbose : Bool) (t : Text) : Text := if verbose then dropIgnored false t else t

theorem dropIgnored_length_le (inside : Bool) (t : Text) :
    (dropIgnored inside t).length ≤ t.length := by
  induction t generalizing inside with
  | nil => simp [dropIgnored]
  | cons c t ih =>
    have h₁ := ih (c ≠ '\n')
    have h₂ := ih false
    have h₃ := ih true
    rw [dropIgnored]
    split
    · rw [List.length_cons]
      omega
    · split
      · rw [List.length_cons]
        omega
      · split
        · rw [List.length_cons]
          omega
        · exact Nat.le_refl _

theorem ignore_length_le (verbose : Bool) (t : Text) : (ignore verbose t).length ≤ t.length := by
  unfold ignore
  split
  · exact dropIgnored_length_le false t
  · exact Nat.le_refl _

/-- Reads at most `bound` characters that satisfy `p`, one by one. -/
def takeEach (verbose : Bool) (p : Char → Bool) : Nat → Text → Text × Text
  | 0, t => ([], t)
  | _, [] => ([], [])
  | bound + 1, c :: t =>
    if p c then
      let rest := takeEach verbose p bound (ignore verbose t)
      (c :: rest.1, rest.2)
    else ([], c :: t)

/-- Reads as many characters that satisfy `p` as there are, one by one. -/
def takeAll (verbose : Bool) (p : Char → Bool) (t : Text) : Text × Text :=
  takeEach verbose p t.length t

/-- The value of digits in the given base. -/
def digitsValue (base : Nat) (digits : Text) : Nat :=
  digits.foldl (fun n d => n * base + hexValue d) 0

/-- The character with the given code point, if there is one. -/
def scalar? (n : Nat) : Option Char :=
  if n.isValidChar then some (Char.ofNat n) else none

/-- Reads a decimal number below 2 ^ 32, with white space around it. The number is missing if there
are no digits or if it is too large. -/
def readDecimal (verbose : Bool) (t : Text) : Option Nat × Text :=
  let read := takeAll verbose Char.isDigit (trimStart t)
  let n := digitsValue 10 read.1
  (if read.1.isEmpty || 0x100000000 ≤ n then none else some n, trimStart read.2)

/-- Reads the bounds of a counted repetition, after its opening brace. -/
def readBounds (verbose : Bool) (t : Text) : Option ((Nat × Option Nat) × Text) := do
  match readDecimal verbose (ignore verbose t) with
  | (low, ',' :: t) =>
    match ignore verbose t with
    | '}' :: t => return ((← low, none), t)
    | t =>
      match readDecimal verbose t with
      | (high, '}' :: t) =>
        let least ← low
        let most ← high
        if least ≤ most then return ((least, some most), t) else none
      | _ => none
  | (low, '}' :: t) =>
    let count ← low
    return ((count, some count), t)
  | _ => none

/-- What an escape or a single character stands for. -/
inductive Piece where
  | literal (c : Char) (short : Bool)
  | anchor (a : Anchor)
  | property (query : Unicode.Query) (negated : Bool)
  | shorthand (kind : Shorthand) (negated : Bool)
  deriving DecidableEq, Repr

/-- Reads a code point in hexadecimal, after the letter: in braces, or with exactly `count`
digits. -/
def readHex (verbose : Bool) (count : Nat) (t : Text) : Option (Piece × Text) :=
  match ignore verbose t with
  | '{' :: t =>
    match takeAll verbose isHexDigit (ignore verbose t) with
    | ([], _) => none
    | (digits, '}' :: t) =>
      (scalar? (digitsValue 16 digits)).map fun c => (.literal c false, t)
    | _ => none
  | t =>
    match takeEach verbose isHexDigit count t with
    | (digits, t) =>
      if digits.length < count then none
      else (scalar? (digitsValue 16 digits)).map fun c => (.literal c (count = 2), t)

/-- The text before the first place where `mark` stands, and the text after it. -/
def splitAtMark (mark : Text) : Text → Option (Text × Text)
  | [] => none
  | c :: t =>
    if mark.isPrefixOf (c :: t) then some ([], (c :: t).drop mark.length)
    else (splitAtMark mark t).map fun parts => (c :: parts.1, parts.2)

/-- The query that the text between the braces of a property asks. -/
def queryOf (name : Text) : Unicode.Query :=
  match (splitAtMark ['!', '='] name <|> splitAtMark [':'] name) <|> splitAtMark ['='] name with
  | some (property, value) => .valued property value
  | none => .named name

/-- Reads the name of a character property, after the letter. -/
def readProperty (verbose negated : Bool) (t : Text) : Option (Piece × Text) :=
  match ignore verbose t with
  | [] => none
  | '{' :: t =>
    match takeAll verbose (· ≠ '}') (ignore verbose t) with
    | (name, _ :: t) => some (.property (queryOf name) negated, t)
    | (_, []) => none
  | '\\' :: _ => none
  | c :: t => some (.property (.named [c]) negated, t)

/-- The edges of words that have names. -/
def wordEdges : List (String × WordEdge) :=
  [("start", .start), ("end", .stop), ("start-half", .startHalf), ("end-half", .stopHalf)]

/-- A character in the name of an edge of a word. -/
def isEdgeChar (c : Char) : Bool := c.isAlpha || c = '-'

/-- Reads on after a word boundary, which a name in braces may make more special. Braces that do
not begin with a name belong to a repetition. -/
def readWordEdge (verbose : Bool) (t : Text) : Option (Piece × Text) :=
  match t with
  | '{' :: inside =>
    match ignore verbose inside with
    | [] => none
    | c :: name =>
      if isEdgeChar c then
        match takeAll verbose isEdgeChar (c :: name) with
        | (name, '}' :: t) =>
          (wordEdges.find? fun edge => edge.1.toList = name).map fun edge =>
            (.anchor (.word edge.2), t)
        | _ => none
      else some (.anchor (.word .boundary), t)
  | _ => some (.anchor (.word .boundary), t)

/-- The control characters with a letter of their own. -/
def controlEscapes : List (Char × Char) :=
  [('a', '\x07'), ('f', '\x0C'), ('t', '\t'), ('n', '\n'), ('r', '\r'), ('v', '\x0B')]

/-- An ASCII character that stands for itself after a backslash: all but letters, digits and the
two angles. -/
def isEscapable (c : Char) : Bool :=
  c.toNat < 0x80 && !c.isAlphanum && c ≠ '<' && c ≠ '>'

/-- Reads an escape, after its backslash. -/
def readEscape (verbose : Bool) : Text → Option (Piece × Text)
  | [] => none
  | c :: t =>
    if c = 'x' then readHex verbose 2 t
    else if c = 'u' then readHex verbose 4 t
    else if c = 'U' then readHex verbose 8 t
    else if c = 'p' || c = 'P' then readProperty verbose (c = 'P') t
    else if c = 'd' || c = 'D' then some (.shorthand .digit (c = 'D'), t)
    else if c = 's' || c = 'S' then some (.shorthand .blank (c = 'S'), t)
    else if c = 'w' || c = 'W' then some (.shorthand .word (c = 'W'), t)
    else if isEscapable c then some (.literal c false, t)
    else if c = 'A' then some (.anchor .textStart, t)
    else if c = 'z' then some (.anchor .textEnd, t)
    else if c = 'b' then readWordEdge verbose t
    else if c = 'B' then some (.anchor (.word .inside), t)
    else if c = '<' then some (.anchor (.word .start), t)
    else if c = '>' then some (.anchor (.word .stop), t)
    else (controlEscapes.find? fun e => e.1 = c).map fun e => (.literal e.2 false, t)

/-- The letters of the flags. -/
def flagLetters : List (Char × Flag) :=
  [('i', .ignoreCase), ('m', .multiLine), ('s', .dotAll), ('U', .swapGreed), ('u', .unicode),
   ('R', .crlf), ('x', .verbose)]

/-- Reads flags up to the `:` or `)` after them, which begins the rest. A flag may occur once, and
so may the `-` that clears the flags after it; the `-` needs a flag after it. -/
def readFlags (clearing : Bool) (seen : FlagChanges) : Text → Option (FlagChanges × Text)
  | [] => none
  | c :: t =>
    if c = ':' || c = ')' then some (seen, c :: t)
    else if c = '-' then
      match t with
      | [] => none
      | d :: _ =>
        if clearing || d = ':' || d = ')' then none else readFlags true seen t
    else
      match flagLetters.find? fun f => f.1 = c with
      | none => none
      | some (_, flag) =>
        if seen.any fun change => change.1 = flag then none
        else readFlags clearing (seen ++ [(flag, !clearing)]) t

/-- The setting of a flag in a list of changes, if it occurs there. -/
def settingOf (flag : Flag) (changes : FlagChanges) : Option Bool :=
  (changes.find? fun change => change.1 = flag).map Prod.snd

end CallLint.Pattern
