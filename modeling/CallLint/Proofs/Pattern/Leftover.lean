import CallLint.Proofs.Pattern.Steps
import Mathlib.Data.List.TakeDrop

/-!
# What readers leave

No reader of a piece of a pattern adds to the text, and every step of the readers of classes and of
patterns takes a character. So their bounds are never reached, and what they read does not depend
on them.

* `readSet_of_lt`, `readRest_of_lt`: any bound above the number of characters will do.
-/

namespace CallLint.Pattern

open Text

/-- What was read, if anything, leaves at most `n` characters. -/
def Leaves {α : Type} (n : Nat) (read : Option (α × Text)) : Prop :=
  ∀ a u, read = some (a, u) → u.length ≤ n

namespace Leaves

variable {α β : Type} {n : Nat}

theorem none : Leaves n (Option.none : Option (α × Text)) := by
  intro a u h
  cases h

theorem some {a : α} {u : Text} (h : u.length ≤ n) : Leaves n (some (a, u)) := by
  intro b v heq
  cases heq
  exact h

theorem mono {m : Nat} {read : Option (α × Text)} (h : Leaves m read) (hmn : m ≤ n) :
    Leaves n read := fun a u heq => Nat.le_trans (h a u heq) hmn

theorem map {read : Option (α × Text)} (h : Leaves n read) (f : α → β) :
    Leaves n (read.map fun r => (f r.1, r.2)) := by
  cases read with
  | none => exact none
  | some r => exact some (h r.1 r.2 rfl)

theorem ite {c : Prop} [Decidable c] {read other : Option (α × Text)} (h₁ : Leaves n read)
    (h₂ : Leaves n other) : Leaves n (if c then read else other) := by
  split
  · exact h₁
  · exact h₂

end Leaves

/-! ## Pieces -/

theorem trimStart_length_le (t : Text) : (trimStart t).length ≤ t.length :=
  (List.dropWhile_suffix _).length_le

theorem takeEach_length_le (verbose : Bool) (p : Char → Bool) (bound : Nat) (t : Text) :
    (takeEach verbose p bound t).2.length ≤ t.length := by
  induction bound generalizing t with
  | zero => cases t <;> exact Nat.le_refl _
  | succ bound ih =>
    cases t with
    | nil => exact Nat.le_refl _
    | cons c t =>
      rw [takeEach]
      split
      · have hrest := ih (ignore verbose t)
        have hignore := ignore_length_le verbose t
        simp only [List.length_cons]
        omega
      · exact Nat.le_refl _

theorem takeAll_length_le (verbose : Bool) (p : Char → Bool) (t : Text) :
    (takeAll verbose p t).2.length ≤ t.length := takeEach_length_le verbose p _ t

theorem readDecimal_length_le (verbose : Bool) (t : Text) :
    (readDecimal verbose t).2.length ≤ t.length := by
  have h₁ := trimStart_length_le t
  have h₂ := takeAll_length_le verbose Char.isDigit (trimStart t)
  have h₃ := trimStart_length_le (takeAll verbose Char.isDigit (trimStart t)).2
  exact Nat.le_trans h₃ (Nat.le_trans h₂ h₁)

/-- The bounds of a repetition are in order, the least number first. -/
theorem leaves_readBounds {verbose : Bool} {t u : Text} {least : Nat} {most : Option Nat}
    (h : readBounds verbose t = some ((least, most), u)) :
    u.length ≤ t.length ∧ ∀ m ∈ most, least ≤ m := by
  have hignore := ignore_length_le verbose t
  have hlow := readDecimal_length_le verbose (ignore verbose t)
  unfold readBounds at h
  split at h
  next low t₁ heq =>
    have hignore₁ := ignore_length_le verbose t₁
    rw [heq, List.length_cons] at hlow
    split at h
    next t₂ heq₁ =>
      rw [heq₁, List.length_cons] at hignore₁
      cases low with
      | none => cases h
      | some low =>
        cases h
        exact ⟨by omega, fun m hm => absurd hm (Option.not_mem_none m)⟩
    next =>
      have hhigh := readDecimal_length_le verbose (ignore verbose t₁)
      split at h
      next high t₂ heq₂ =>
        rw [heq₂, List.length_cons] at hhigh
        cases low with
        | none => cases h
        | some low =>
          cases high with
          | none => cases h
          | some high =>
            change (if low ≤ high then some ((low, some high), t₂) else none) = _ at h
            split at h
            next hle =>
              cases h
              exact ⟨by omega, fun m hm => Option.mem_some.1 hm ▸ hle⟩
            next => cases h
      next => cases h
  next count t₁ heq =>
    rw [heq, List.length_cons] at hlow
    cases count with
    | none => cases h
    | some count =>
      cases h
      exact ⟨by omega, fun m hm => Nat.le_of_eq (Option.mem_some.1 hm)⟩
  next => cases h

theorem leaves_readHex (verbose : Bool) (count : Nat) (t : Text) :
    Leaves t.length (readHex verbose count t) := by
  have hignore := ignore_length_le verbose t
  unfold readHex
  split
  next t₁ heq =>
    have hignore₁ := ignore_length_le verbose t₁
    have hdigits := takeAll_length_le verbose isHexDigit (ignore verbose t₁)
    rw [heq, List.length_cons] at hignore
    split
    next => exact .none
    next digits t₂ _ heq₁ =>
      rw [heq₁, List.length_cons] at hdigits
      cases scalar? (digitsValue 16 digits) with
      | none => exact .none
      | some c => exact .some (by omega)
    next => exact .none
  next =>
    have hdigits := takeEach_length_le verbose isHexDigit count (ignore verbose t)
    dsimp only
    split
    · exact .none
    · cases scalar? (digitsValue 16 (takeEach verbose isHexDigit count (ignore verbose t)).1) with
      | none => exact .none
      | some c => exact .some (by omega)

theorem leaves_readProperty (verbose negated : Bool) (t : Text) :
    Leaves t.length (readProperty verbose negated t) := by
  have hignore := ignore_length_le verbose t
  unfold readProperty
  split
  next => exact .none
  next t₁ heq =>
    have hignore₁ := ignore_length_le verbose t₁
    have hname := takeAll_length_le verbose (· ≠ '}') (ignore verbose t₁)
    rw [heq, List.length_cons] at hignore
    split
    next name _ t₂ heq₁ =>
      rw [heq₁, List.length_cons] at hname
      exact .some (by omega)
    next => exact .none
  next => exact .none
  next c t₁ _ _ heq =>
    rw [heq, List.length_cons] at hignore
    exact .some (by omega)

theorem leaves_readWordEdge (verbose : Bool) (t : Text) :
    Leaves t.length (readWordEdge verbose t) := by
  unfold readWordEdge
  split
  next inside =>
    have hignore := ignore_length_le verbose inside
    split
    next => exact .none
    next c name heq =>
      have hname := takeAll_length_le verbose isEdgeChar (c :: name)
      rw [heq] at hignore
      split
      next =>
        split
        next name t₁ heq₁ =>
          rw [heq₁, List.length_cons] at hname
          cases wordEdges.find? fun edge => edge.1.toList = name with
          | none => exact .none
          | some edge =>
            refine .some ?_
            rw [List.length_cons]
            omega
        next => exact .none
      next => exact .some (Nat.le_refl _)
  next => exact .some (Nat.le_refl _)

theorem leaves_readEscape (verbose : Bool) (t : Text) :
    Leaves t.length (readEscape verbose t) := by
  cases t with
  | nil => exact .none
  | cons c t =>
    suffices h : Leaves t.length (readEscape verbose (c :: t)) from
      h.mono (Nat.le_succ _)
    unfold readEscape
    repeat' apply Leaves.ite
    any_goals exact .some (Nat.le_refl _)
    · exact leaves_readHex verbose 2 t
    · exact leaves_readHex verbose 4 t
    · exact leaves_readHex verbose 8 t
    · exact leaves_readProperty verbose _ t
    · exact leaves_readWordEdge verbose t
    · cases controlEscapes.find? fun e => e.1 = c with
      | none => exact .none
      | some e => exact .some (Nat.le_refl _)

/-- Flags are read up to the character that ends them. -/
theorem leaves_readFlags {clearing : Bool} {seen changes : FlagChanges} {t u : Text}
    (h : readFlags clearing seen t = some (changes, u)) :
    u.length ≤ t.length ∧ ∃ c v, u = c :: v ∧ (c = ':' ∨ c = ')') := by
  induction t generalizing clearing seen with
  | nil => cases h
  | cons c t ih =>
    unfold readFlags at h
    split at h
    next hend =>
      cases h
      simp only [Bool.or_eq_true, decide_eq_true_eq] at hend
      exact ⟨Nat.le_refl _, c, t, rfl, hend⟩
    next =>
      have hrest : ∃ clearing seen, readFlags clearing seen t = some (changes, u) := by
        split at h
        · split at h
          · cases h
          · split at h
            · cases h
            · exact ⟨_, _, h⟩
        · split at h
          · cases h
          · split at h
            · cases h
            · exact ⟨_, _, h⟩
      obtain ⟨clearing, seen, hrest⟩ := hrest
      obtain ⟨hle, hmark⟩ := ih hrest
      exact ⟨Nat.le_succ_of_le hle, hmark⟩

/-! ## Classes -/

theorem takeCaret_length_le (t : Text) : (takeCaret t).2.length ≤ t.length := by
  unfold takeCaret
  split
  · exact Nat.le_succ _
  · exact Nat.le_refl _

theorem leaves_readPosix (t : Text) : Leaves t.length (readPosix t) := by
  cases t with
  | nil => exact .none
  | cons c t =>
    by_cases hc : c = ':'
    · subst hc
      have hcaret := takeCaret_length_le t
      have hdrop := (List.dropWhile_suffix (· ≠ ':') (l := (takeCaret t).2)).length_le
      rw [readPosix_colon, List.span_eq_takeWhile_dropWhile]
      split
      next name t₁ heq =>
        rw [(Prod.mk.inj heq).2, List.length_cons, List.length_cons] at hdrop
        cases posixNames.find? fun entry => entry.1.toList = name with
        | none => exact .none
        | some entry =>
          refine .some ?_
          rw [List.length_cons]
          omega
      next => exact .none
    · unfold readPosix
      split
      next heq => exact absurd (List.cons.inj heq).1 hc
      next => exact .none

theorem readSetOpening_length_le (verbose : Bool) (t : Text) :
    (readSetOpening verbose t).2.2.length ≤ t.length := by
  have hignore := ignore_length_le verbose t
  have hsign := takeCaret_length_le (ignore verbose t)
  rw [readSetOpening_eq]
  generalize takeCaret (ignore verbose t) = sign at hsign
  have hrest : (if sign.1 then ignore verbose sign.2 else sign.2).length ≤ sign.2.length := by
    split
    · exact ignore_length_le verbose sign.2
    · exact Nat.le_refl _
  dsimp only
  generalize (if sign.1 then ignore verbose sign.2 else sign.2) = rest at hrest
  have hdashes := takeAll_length_le verbose (· = '-') rest
  split
  next t₁ heq =>
    have hignore₁ := ignore_length_le verbose t₁
    rw [heq, List.length_cons] at hdashes
    dsimp only
    omega
  next dashes t₁ _ heq =>
    rw [heq] at hdashes
    exact Nat.le_trans hdashes (by omega)

theorem leaves_readSetPiece (verbose : Bool) (t : Text) :
    Leaves (t.length - 1) (readSetPiece verbose t) := by
  unfold readSetPiece
  split
  next => exact .none
  next t => exact leaves_readEscape verbose t
  next => exact .some (Nat.le_refl _)

theorem leaves_readSetItem (verbose : Bool) (t : Text) :
    Leaves (t.length - 1) (readSetItem verbose t) := by
  intro item u h
  unfold readSetItem at h
  rw [Option.bind_eq_bind, Option.bind_eq_some_iff] at h
  obtain ⟨⟨first, t₁⟩, hfirst, h⟩ := h
  have hlength := leaves_readSetPiece verbose t _ _ hfirst
  have hignore := ignore_length_le verbose t₁
  dsimp only at h
  split at h
  next => cases h
  next after heq =>
    rw [heq, List.length_cons] at hignore
    split at h
    next =>
      cases hset : first.toSet? with
      | none => simp [hset] at h
      | some set =>
        rw [hset] at h
        cases h
        rw [List.length_cons]
        omega
    next =>
      rw [Option.bind_eq_some_iff] at h
      obtain ⟨⟨last, t₂⟩, hlast, h⟩ := h
      have hignore₁ := ignore_length_le verbose after
      have hlength₁ := leaves_readSetPiece verbose _ _ _ hlast
      dsimp only at h
      split at h
      next =>
        split at h
        · cases h
          omega
        · cases h
      next => cases h
  next =>
    cases hset : first.toSet? with
    | none => simp [hset] at h
    | some set =>
      rw [hset] at h
      cases h
      exact Nat.le_trans hignore hlength

theorem leaves_setStep (verbose : Bool) (opened : List OpenSet) (items : List SetSyntax)
    (t : Text) : Leaves (t.length - 1) (setStep verbose opened items t) := by
  have hignore := ignore_length_le verbose t
  unfold setStep
  split
  next => exact .none
  next c t₁ heq =>
    rw [heq, List.length_cons] at hignore
    suffices h : Leaves t₁.length _ from h.mono (by omega)
    apply Leaves.ite
    · have hposix := leaves_readPosix t₁
      cases hread : readPosix t₁ with
      | none => exact .some (readSetOpening_length_le verbose t₁)
      | some r => exact .some (hposix r.1 r.2 hread)
    · apply Leaves.ite
      · cases closeSet? opened items with
        | none => exact .none
        | some next => exact .some (Nat.le_refl _)
      · cases operatorOf? c t₁.head? with
        | none =>
          have hitem := leaves_readSetItem verbose (c :: t₁)
          exact hitem.map fun item => Sum.inr (opened, item :: items)
        | some kind =>
          refine .some ?_
          rw [List.length_tail]
          omega

/-- Any bound above the number of characters reads the same class. -/
theorem readSet_of_lt {verbose : Bool} {bound bound' : Nat} {opened : List OpenSet}
    {items : List SetSyntax} {t : Text} (h : t.length < bound) (h' : t.length < bound') :
    readSet verbose bound opened items t = readSet verbose bound' opened items t := by
  induction bound generalizing bound' opened items t with
  | zero => omega
  | succ bound ih =>
    obtain ⟨bound', rfl⟩ := Nat.exists_eq_add_one_of_ne_zero (Nat.ne_zero_of_lt h')
    rw [readSet_succ, readSet_succ]
    cases t with
    | nil => cases verbose <;> rfl
    | cons c t =>
      cases hstep : setStep verbose opened items (c :: t) with
      | none => rfl
      | some read =>
        have hlength : read.2.length ≤ t.length := leaves_setStep _ _ _ _ _ _ hstep
        rw [List.length_cons] at h h'
        obtain ⟨whole | next, u⟩ := read
        · rfl
        · exact ih (Nat.lt_of_le_of_lt hlength (by omega)) (Nat.lt_of_le_of_lt hlength (by omega))

/-- What stands between the brackets of a class ends within the text. -/
theorem readSet_length_le {verbose : Bool} {bound : Nat} {opened : List OpenSet}
    {items : List SetSyntax} {t u : Text} {negated : Bool} {body : SetSyntax}
    (h : readSet verbose bound opened items t = some (negated, body, u)) :
    u.length ≤ t.length := by
  induction bound generalizing opened items t with
  | zero => cases h
  | succ bound ih =>
    rw [readSet_succ, Option.bind_eq_some_iff] at h
    obtain ⟨⟨next, v⟩, hstep, h⟩ := h
    have hlength : v.length ≤ t.length - 1 := leaves_setStep _ _ _ _ _ _ hstep
    cases next with
    | inl whole =>
      cases h
      exact Nat.le_trans hlength (Nat.sub_le _ _)
    | inr next => exact Nat.le_trans (ih h) (Nat.le_trans hlength (Nat.sub_le _ _))

theorem leaves_readBracket (verbose : Bool) (t : Text) :
    Leaves t.length (readBracket verbose t) := by
  intro part u h
  unfold readBracket at h
  obtain ⟨⟨negated, body, v⟩, hset, heq⟩ := Option.map_eq_some_iff.1 h
  cases heq
  exact Nat.le_trans (readSet_length_le hset) (readSetOpening_length_le verbose t)

/-! ## Groups -/

theorem leaves_readName (t : Text) : Leaves t.length (readName t) := by
  have hdrop := (List.dropWhile_suffix (· ≠ '>') (l := t)).length_le
  unfold readName
  rw [List.span_eq_takeWhile_dropWhile]
  split
  next => exact .none
  next c name t₁ heq =>
    rw [(Prod.mk.inj heq).2, List.length_cons] at hdrop
    exact .ite (.some (by omega)) .none
  next => exact .none

theorem dropMark_length_le (mark : Char) (t : Text) : (dropMark mark t).length ≤ t.length := by
  unfold dropMark
  split
  · exact Nat.le_refl _
  · split
    · exact Nat.le_succ _
    · exact Nat.le_refl _

theorem leaves_openNamed? (r : Reading) (t : Text) : Leaves t.length (r.openNamed? t) := by
  unfold Reading.openNamed?
  split
  next => exact .none
  next name u heq => exact .ite .none (.some (leaves_readName t _ _ heq))

theorem leaves_takeFlags? (r : Reading) (t : Text) : Leaves t.length (r.takeFlags? t) := by
  unfold Reading.takeFlags?
  split
  next => exact .none
  next changes u _ heq => exact .some (Nat.le_of_succ_le (leaves_readFlags heq).1)
  next changes u heq => exact .some (Nat.le_of_succ_le (leaves_readFlags heq).1)
  next => exact .none

theorem leaves_readGroup (r : Reading) (t : Text) : Leaves t.length (readGroup r t) := by
  have hignore := ignore_length_le r.verbose t
  rw [readGroup_eq]
  split
  next => exact .none
  next => exact .none
  next => exact .none
  next => exact .none
  next u heq =>
    rw [heq] at hignore
    exact (leaves_openNamed? r u).mono (by simp at hignore; omega)
  next u _ _ heq =>
    rw [heq] at hignore
    exact (leaves_openNamed? r u).mono (by simp at hignore; omega)
  next u _ _ _ _ _ _ heq =>
    rw [heq] at hignore
    exact (leaves_takeFlags? r u).mono (by simp at hignore; omega)
  next => exact .some hignore

/-! ## Patterns -/

theorem leaves_next (r : Reading) (c : Char) (t : Text) : Leaves t.length (r.next c t) := by
  have hrepeat : ∀ (repeated : Option Reading) (u : Text), u.length ≤ t.length →
      Leaves t.length (repeated.map fun r => (r, dropMark '?' u)) := by
    intro repeated u hu
    cases repeated with
    | none => exact .none
    | some r => exact .some (Nat.le_trans (dropMark_length_le '?' u) hu)
  unfold Reading.next
  split
  next => exact leaves_readGroup r t
  next =>
    cases r.closeGroup? with
    | none => exact .none
    | some r => exact .some (Nat.le_refl _)
  next => exact .some (Nat.le_refl _)
  next => exact (leaves_readBracket r.verbose t).map r.add
  next => exact hrepeat _ t (Nat.le_refl _)
  next => exact hrepeat _ t (Nat.le_refl _)
  next => exact hrepeat _ t (Nat.le_refl _)
  next =>
    change Leaves t.length (r.next '{' t)
    rw [Reading.next_brace]
    cases hbounds : readBounds r.verbose t with
    | none => exact .none
    | some read =>
      have hlength : read.2.length ≤ t.length := (leaves_readBounds hbounds).1
      exact hrepeat _ _ (Nat.le_trans (ignore_length_le r.verbose read.2) hlength)
  next => exact (leaves_readEscape r.verbose t).map fun piece => r.add piece.toSyntax
  next => exact .some (Nat.le_refl _)
  next => exact .some (Nat.le_refl _)
  next => exact .some (Nat.le_refl _)
  next => exact .some (Nat.le_refl _)

/-- Any bound above the number of characters reads the same pattern. -/
theorem readRest_of_lt {bound bound' : Nat} {r : Reading} {t : Text} (h : t.length < bound)
    (h' : t.length < bound') : readRest bound r t = readRest bound' r t := by
  induction bound generalizing bound' r t with
  | zero => omega
  | succ bound ih =>
    obtain ⟨bound', rfl⟩ := Nat.exists_eq_add_one_of_ne_zero (Nat.ne_zero_of_lt h')
    have hignore := ignore_length_le r.verbose t
    rw [readRest_succ, readRest_succ]
    split
    next => rfl
    next c u heq =>
      rw [heq, List.length_cons] at hignore
      cases hnext : r.next c u with
      | none => rfl
      | some read =>
        have hlength : read.2.length ≤ u.length := leaves_next r c u _ _ hnext
        exact ih (by omega) (by omega)

end CallLint.Pattern
