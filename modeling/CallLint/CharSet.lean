/-!
# Sets of characters

A set of characters is kept as a list of closed ranges of code points that are in order and do not
touch each other, so that a set of code points has one such list only. Ranges may run over the
surrogates, which no character has as its code point.

* `orderedFrom_insertRange`, `orderedFrom_gaps`: adding a range and taking what lies between ranges
  keep this form; all other operations are built from the two.
-/

namespace CallLint

/-- The ranges begin at the code point `next` or later and are in order, none is empty, and there is
a gap between any two. -/
def CharSet.OrderedFrom (next : Nat) : List (Nat × Nat) → Prop
  | [] => True
  | (a, b) :: rest => next ≤ a ∧ a ≤ b ∧ OrderedFrom (b + 2) rest

/-- A set of characters, as closed ranges of code points. -/
structure CharSet where
  ranges : List (Nat × Nat)
  ordered : CharSet.OrderedFrom 0 ranges
  deriving DecidableEq, Repr

namespace CharSet

theorem OrderedFrom.mono {m n : Nat} {rs : List (Nat × Nat)} (h : m ≤ n)
    (hrs : OrderedFrom n rs) : OrderedFrom m rs := by
  cases rs with
  | nil => trivial
  | cons r rest => exact ⟨Nat.le_trans h hrs.1, hrs.2⟩

/-- The largest code point. -/
def maxCode : Nat := 0x10FFFF

/-- Whether the set has the code point. -/
def has (s : CharSet) (n : Nat) : Bool := s.ranges.any fun r => r.1 ≤ n && n ≤ r.2

/-- Whether the set has the character. -/
def contains (s : CharSet) (c : Char) : Bool := s.has c.toNat

/-- Adds the range from `lo` to `hi`, joining the ranges that it meets. -/
def insertRange (lo hi : Nat) : List (Nat × Nat) → List (Nat × Nat)
  | [] => [(lo, hi)]
  | (a, b) :: rest =>
    if hi + 1 < a then (lo, hi) :: (a, b) :: rest
    else if b + 1 < lo then (a, b) :: insertRange lo hi rest
    else insertRange (min a lo) (max b hi) rest

theorem orderedFrom_insertRange {next lo hi : Nat} {rs : List (Nat × Nat)}
    (hrs : OrderedFrom next rs) (hnext : next ≤ lo) (h : lo ≤ hi) :
    OrderedFrom next (insertRange lo hi rs) := by
  induction rs generalizing next lo hi with
  | nil => exact ⟨hnext, h, trivial⟩
  | cons r rest ih =>
    obtain ⟨a, b⟩ := r
    obtain ⟨ha, hab, hrest⟩ := hrs
    rw [insertRange]
    split
    · exact ⟨hnext, h, by omega, hab, hrest⟩
    · split
      · exact ⟨ha, hab, ih hrest (by omega) h⟩
      · exact ih (hrest.mono (by omega)) (by omega) (by omega)

/-- The ranges between the given ones, from the code point `next` on. -/
def gaps (next : Nat) : List (Nat × Nat) → List (Nat × Nat)
  | [] => if next ≤ maxCode then [(next, maxCode)] else []
  | (a, b) :: rest =>
    if next < a then (next, a - 1) :: gaps (b + 1) rest else gaps (b + 1) rest

theorem orderedFrom_gaps {next : Nat} {rs : List (Nat × Nat)} (hrs : OrderedFrom next rs) :
    OrderedFrom next (gaps next rs) := by
  induction rs generalizing next with
  | nil =>
    rw [gaps]
    split
    · exact ⟨Nat.le_refl _, ‹_›, trivial⟩
    · trivial
  | cons r rest ih =>
    obtain ⟨a, b⟩ := r
    obtain ⟨ha, hab, hrest⟩ := hrs
    have hgaps : OrderedFrom (b + 1) (gaps (b + 1) rest) := ih (hrest.mono (by omega))
    rw [gaps]
    split
    · exact ⟨Nat.le_refl _, by omega, hgaps.mono (by omega)⟩
    · exact hgaps.mono (by omega)

/-- No characters. -/
def empty : CharSet := ⟨[], trivial⟩

/-- The code points from `lo` to `hi`. -/
def range (lo hi : Nat) : CharSet :=
  if h : lo ≤ hi then ⟨[(lo, hi)], Nat.zero_le _, h, trivial⟩ else empty

/-- All characters. -/
def all : CharSet := range 0 maxCode

/-- One character alone. -/
def single (c : Char) : CharSet := range c.toNat c.toNat

/-- The set with the code points from `lo` to `hi` added. -/
def insert (s : CharSet) (lo hi : Nat) : CharSet :=
  if h : lo ≤ hi then
    ⟨insertRange lo hi s.ranges, orderedFrom_insertRange s.ordered (Nat.zero_le _) h⟩
  else s

/-- The set with all the given closed ranges added. -/
def insertAll (s : CharSet) (rs : List (Nat × Nat)) : CharSet :=
  rs.foldr (fun r found => found.insert r.1 r.2) s

/-- The set of the given closed ranges. -/
def ofRanges (rs : List (Nat × Nat)) : CharSet := empty.insertAll rs

/-- The union of two sets. -/
def union (s t : CharSet) : CharSet := s.insertAll t.ranges

/-- All characters that the set does not have. -/
def compl (s : CharSet) : CharSet := ⟨gaps 0 s.ranges, orderedFrom_gaps s.ordered⟩

/-- The characters that both sets have. -/
def inter (s t : CharSet) : CharSet := (s.compl.union t.compl).compl

/-- The characters of `s` that `t` does not have. -/
def diff (s t : CharSet) : CharSet := s.inter t.compl

/-- The characters that one of the two sets has and the other has not. -/
def symmDiff (s t : CharSet) : CharSet := (s.union t).diff (s.inter t)

/-- Whether the set has ASCII characters only. -/
def isAscii (s : CharSet) : Bool := s.ranges.all fun r => r.2 < 0x80

end CharSet

end CallLint
