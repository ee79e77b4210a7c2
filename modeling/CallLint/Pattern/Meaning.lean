import CallLint.Pattern.Expr
import CallLint.Unicode.Folding

/-!
# The meaning of patterns

A pattern as written is turned into an expression. Flags hold for the rest of the group that they
stand in, and the flags of a group hold within it. In Unicode mode classes are sets of Unicode
characters; outside it they are sets of ASCII characters, and whatever would reach further (a
negated class, a property, the dot, a character beyond ASCII in a class) has no meaning.
-/

namespace CallLint.Pattern

open Unicode

/-- The flags in force at some place of a pattern. -/
structure Flags where
  ignoreCase : Bool
  multiLine : Bool
  dotAll : Bool
  unicode : Bool
  crlf : Bool
  deriving DecidableEq, Repr

/-- Sets or clears one flag. Two of them do not change what a pattern matches: which of two matches
is preferred, and how a pattern is written. -/
def Flags.change (f : Flags) (change : Flag × Bool) : Flags :=
  match change.1 with
  | .ignoreCase => { f with ignoreCase := change.2 }
  | .multiLine => { f with multiLine := change.2 }
  | .dotAll => { f with dotAll := change.2 }
  | .unicode => { f with unicode := change.2 }
  | .crlf => { f with crlf := change.2 }
  | .swapGreed => f
  | .verbose => f

/-- Sets and clears flags. -/
def Flags.changeAll (f : Flags) (changes : FlagChanges) : Flags := changes.foldl Flags.change f

/-- The set together with the other case of the ASCII letters in it. -/
def foldAsciiCase (s : CharSet) : CharSet :=
  let upper := s.inter (.range 'A'.toNat 'Z'.toNat)
  let lower := s.inter (.range 'a'.toNat 'z'.toNat)
  (s.insertAll (upper.ranges.map fun r => (r.1 + 32, r.2 + 32))).insertAll
    (lower.ranges.map fun r => (r.1 - 32, r.2 - 32))

/-- Without regard to case, if the flags say so. -/
def applyCase (f : Flags) (s : CharSet) : CharSet :=
  if f.ignoreCase then if f.unicode then foldCase s else foldAsciiCase s else s

/-- All characters but those of the set, if negated. Outside Unicode mode they have no set. -/
def negate? (f : Flags) (negated : Bool) (s : CharSet) : Option CharSet :=
  if negated then if f.unicode then some s.compl else none else some s

/-- The set of a POSIX class. -/
def Posix.set : Posix → CharSet
  | .alnum => .ofRanges [(0x30, 0x39), (0x41, 0x5A), (0x61, 0x7A)]
  | .alpha => .ofRanges [(0x41, 0x5A), (0x61, 0x7A)]
  | .ascii => .range 0 0x7F
  | .blank => .ofRanges [(0x09, 0x09), (0x20, 0x20)]
  | .cntrl => .ofRanges [(0, 0x1F), (0x7F, 0x7F)]
  | .digit => .range 0x30 0x39
  | .graph => .range 0x21 0x7E
  | .lower => .range 0x61 0x7A
  | .print => .range 0x20 0x7E
  | .punct => .ofRanges [(0x21, 0x2F), (0x3A, 0x40), (0x5B, 0x60), (0x7B, 0x7E)]
  | .space => .ofRanges [(0x09, 0x0D), (0x20, 0x20)]
  | .upper => .range 0x41 0x5A
  | .word => .ofRanges [(0x30, 0x39), (0x41, 0x5A), (0x5F, 0x5F), (0x61, 0x7A)]
  | .xdigit => .ofRanges [(0x30, 0x39), (0x41, 0x46), (0x61, 0x66)]

/-- The set of a class of one letter. -/
def Shorthand.set (unicode : Bool) : Shorthand → CharSet
  | .digit => if unicode then digitSet else Posix.digit.set
  | .blank => if unicode then blankSet else Posix.space.set
  | .word => if unicode then wordSet else Posix.word.set

/-- The set of a character property. -/
def propertySet? (f : Flags) (query : Query) (negated : Bool) : Option CharSet :=
  if f.unicode then query.answer?.bind fun s => negate? f negated (applyCase f s) else none

/-- The set of the characters from `lo` to `hi` in a class. -/
def charSet? (f : Flags) (lo hi : Char) : Option CharSet :=
  if f.unicode || hi.toNat < 0x80 then some (.range lo.toNat hi.toNat) else none

/-- The set of what stands between the brackets of a class, before the case of its characters is
considered. -/
def SetSyntax.set? (f : Flags) : SetSyntax → Option CharSet
  | .empty => some .empty
  | .char c => charSet? f c c
  | .range lo hi => charSet? f lo hi
  | .posix kind negated => negate? f negated (applyCase f kind.set)
  | .property query negated => propertySet? f query negated
  | .shorthand kind negated => negate? f negated (kind.set f.unicode)
  | .bracket negated body => do negate? f negated (applyCase f (← body.set? f))
  | .union first rest => do return (← first.set? f).union (← rest.set? f)
  | .operation operator left right => do
    let left := applyCase f (← left.set? f)
    let right := applyCase f (← right.set? f)
    match operator with
    | .intersection => return left.inter right
    | .difference => return left.diff right
    | .symmetricDifference => return left.symmDiff right

/-- The test that an anchor stands for. -/
def Anchor.look (f : Flags) : Anchor → Look
  | .lineStart =>
    if f.multiLine then if f.crlf then .lineStartCrlf else .lineStart else .textStart
  | .lineEnd => if f.multiLine then if f.crlf then .lineEndCrlf else .lineEnd else .textEnd
  | .textStart => .textStart
  | .textEnd => .textEnd
  | .word edge => .word edge f.unicode

/-- The set of any character. -/
def dotSet (f : Flags) : CharSet :=
  if f.dotAll then .all
  else if f.crlf then (CharSet.ofRanges [(0x0A, 0x0A), (0x0D, 0x0D)]).compl
  else (CharSet.single '\n').compl

/-- The expression of a pattern under the flags in force, with the flags in force after it. -/
def Syntax.expr? (f : Flags) : Syntax → Option (Expr Atom × Flags)
  | .empty => some (.empty, f)
  | .flags changes => some (.empty, f.changeAll changes)
  | .literal c short =>
    if !f.unicode && short && 0x80 ≤ c.toNat then none
    else some (.atom (.one (applyCase f (.single c))), f)
  | .dot => if f.unicode then some (.atom (.one (dotSet f)), f) else none
  | .anchor a => some (.atom (.look (a.look f)), f)
  | .property query negated =>
    (propertySet? f query negated).map fun s => (.atom (.one s), f)
  | .shorthand kind negated =>
    (negate? f negated (kind.set f.unicode)).map fun s => (.atom (.one s), f)
  | .bracket negated body => do
    let s ← negate? f negated (applyCase f (← body.set? f))
    return (.atom (.one s), f)
  | .repeated body least most => do
    let (e, f) ← body.expr? f
    return (.repeated e least most, f)
  | .group captured changes body => do
    let (e, _) ← body.expr? (f.changeAll changes)
    return (if captured then .group e else e, f)
  | .sequence first rest => do
    let (e, f) ← first.expr? f
    let (e', f) ← rest.expr? f
    return (.sequence e e', f)
  | .choice first rest => do
    let (e, f) ← first.expr? f
    let (e', f) ← rest.expr? f
    return (.choice e e', f)

end CallLint.Pattern
