import CallLint.Pattern.Expr

/-!
# The size of patterns

A pattern is refused when the machine that searches for it backwards, byte by byte, would take too
much memory. The machine has a state for every byte that is compared and for every branch and join;
a counted repetition is written out. A set of characters is compared by the ranges of bytes that
encode it in UTF-8, where sequences of ranges with a common front part share it. Groups, which only
the machine that searches forwards remembers, count as well.
-/

namespace CallLint.Pattern

/-- The number of bytes of a state. -/
def stateSize : Nat := 32

/-- The number of bytes of one way out of a state with many ways out. -/
def transitionSize : Nat := 8

/-- The number of bytes of one branch of a state that branches. -/
def branchSize : Nat := 4

/-- The largest size of a pattern. -/
def maxSize : Nat := 10 * 1024 * 1024

/-- The numbers from `lo` to `hi`, written with one digit and `n` digits in base 64 after it, as
sequences of ranges of digits. -/
def blocks : Nat → Nat → Nat → List (List (Nat × Nat))
  | 0, lo, hi => [[(lo, hi)]]
  | n + 1, lo, hi =>
    let unit := Nat.pow 64 (n + 1)
    let (a, low) := (lo / unit, lo % unit)
    let (b, high) := (hi / unit, hi % unit)
    if a = b then (blocks n low high).map ((a, a) :: ·)
    else
      let front := if low = 0 then [] else (blocks n low (unit - 1)).map ((a, a) :: ·)
      let back := if high = unit - 1 then [] else (blocks n 0 high).map ((b, b) :: ·)
      let (a, b) := (if low = 0 then a else a + 1, if high = unit - 1 then b else b - 1)
      let middle := if a ≤ b then (blocks n 0 (unit - 1)).map ((a, b) :: ·) else []
      front ++ middle ++ back

/-- The stretches of code points whose characters take equally many bytes, each with the number of
bytes after the first. -/
def lengthClasses : List (Nat × Nat × Nat) :=
  [(0, 0, 0x7F), (1, 0x80, 0x7FF), (2, 0x800, 0xD7FF), (2, 0xE000, 0xFFFF),
   (3, 0x10000, CharSet.maxCode)]

/-- The sequences of ranges that encode a set, in order, each led by its number of further
bytes. -/
def sequences (s : CharSet) : List (List (Nat × Nat)) :=
  s.ranges.flatMap fun r =>
    lengthClasses.flatMap fun (n, first, last) =>
      let (lo, hi) := (max r.1 first, min r.2 last)
      if lo ≤ hi then (blocks n lo hi).map ((n, n) :: ·) else []

/-- The number of elements that two sequences have in common at their front. -/
def commonLength : List (Nat × Nat) → List (Nat × Nat) → Nat
  | a :: as, b :: bs => if a = b then commonLength as bs + 1 else 0
  | _, _ => 0

/-- The number of different front parts of sequences that follow `before` in order. The leading
number of a sequence only marks it and does not count by itself. -/
def frontParts (before : List (Nat × Nat)) : List (List (Nat × Nat)) → Nat
  | [] => 0
  | s :: rest => s.length - max 1 (commonLength before s) + frontParts s rest

/-- The size of the comparison with a set. One character alone is compared byte by byte. -/
def setSize (s : CharSet) : Nat :=
  match s.ranges with
  | [(lo, hi)] =>
    if lo = hi then stateSize * (Char.ofNat lo).utf8Size
    else wide
  | _ => wide
where
  wide : Nat :=
    if s.isAscii then 2 * stateSize + transitionSize * s.ranges.length
    else
      let all := sequences s
      2 * stateSize + stateSize * frontParts [] all + branchSize * all.length

/-- Whether only the empty text can match. -/
def Expr.isEmptyOnly : Expr Atom → Bool
  | .empty => true
  | .atom (.one _) => false
  | .atom (.look _) => true
  | .sequence first rest => first.isEmptyOnly && rest.isEmptyOnly
  | .choice first rest => first.isEmptyOnly && rest.isEmptyOnly
  | .repeated body _ most => most = some 0 || body.isEmptyOnly
  | .group body => body.isEmptyOnly

/-- Whether the empty text can match. -/
def Expr.mayBeEmpty : Expr Atom → Bool
  | .empty => true
  | .atom (.one _) => false
  | .atom (.look _) => true
  | .sequence first rest => first.mayBeEmpty && rest.mayBeEmpty
  | .choice first rest => first.mayBeEmpty || rest.mayBeEmpty
  | .repeated body least _ => least = 0 || body.mayBeEmpty
  | .group body => body.mayBeEmpty

/-- The size of a body of the given size, repeated. -/
def repeatedSize (body : Nat) (mayBeEmpty : Bool) (least : Nat) (most : Option Nat) : Nat :=
  match least, most with
  | 0, none =>
    if mayBeEmpty then body + 3 * stateSize + 4 * branchSize
    else body + stateSize + 2 * branchSize
  | least, none => least * body + stateSize + 2 * branchSize
  | 0, some 0 => stateSize
  | least, some most =>
    if least = most then least * body
    else
      (if least = 0 then stateSize else least * body) + stateSize +
        (most - least) * (body + stateSize + 2 * branchSize)

/-- The size of an expression. -/
def Expr.size : Expr Atom → Nat
  | .empty => stateSize
  | .atom (.one s) => setSize s
  | .atom (.look _) => stateSize
  | .sequence first rest => first.size + rest.size
  | .choice first rest =>
    first.size + rest.size +
      match rest with
      | .choice .. => branchSize
      | _ => 2 * stateSize + 2 * branchSize
  | .repeated body least most =>
    if body.isEmptyOnly then
      repeatedSize body.size true (min least 1) (some (min (most.getD 1) 1))
    else repeatedSize body.size body.mayBeEmpty least most
  | .group body => body.size + 2 * stateSize

end CallLint.Pattern
