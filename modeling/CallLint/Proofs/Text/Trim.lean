import CallLint.Text
import Mathlib.Data.List.TakeWhile

/-!
# Trimming

* `exists_trim`: the trimmed text stands in the text, with white space on both sides.
* `trim_eq_nil_iff`: nothing is left only of white space.
* `trim_eq_self`: a text without white space at its ends is left as it is.
* `trimStart_append_cons`, `trimEnd_append_cons`: a character that is not white space hides what is
  behind it.
-/

namespace CallLint.Text

theorem exists_trimStart (t : Text) :
    ∃ front, t = front ++ trimStart t ∧ ∀ c ∈ front, isBlank c = true :=
  ⟨t.takeWhile isBlank, (List.takeWhile_append_dropWhile ..).symm,
    fun _ hc => List.mem_takeWhile_imp hc⟩

theorem exists_trimEnd (t : Text) :
    ∃ back, t = trimEnd t ++ back ∧ ∀ c ∈ back, isBlank c = true := by
  obtain ⟨front, ht, hfront⟩ := exists_trimStart t.reverse
  refine ⟨front.reverse, ?_, fun c hc => hfront c (List.mem_reverse.1 hc)⟩
  rw [trimEnd, ← List.reverse_append]
  exact List.reverse_eq_iff.1 ht

/-- The trimmed text stands in the text, with white space on both sides. -/
theorem exists_trim (t : Text) :
    ∃ front back, t = front ++ (trim t ++ back) ∧ trimStart t = trim t ++ back ∧
      (∀ c ∈ front, isBlank c = true) ∧ ∀ c ∈ back, isBlank c = true := by
  obtain ⟨front, ht, hfront⟩ := exists_trimStart t
  obtain ⟨back, hs, hback⟩ := exists_trimEnd (trimStart t)
  exact ⟨front, back, by rw [trim, ← hs, ← ht], hs, hfront, hback⟩

theorem trimStart_eq_nil_iff {t : Text} : trimStart t = [] ↔ ∀ c ∈ t, isBlank c = true := by
  simp [trimStart]

theorem trimEnd_eq_nil_iff {t : Text} : trimEnd t = [] ↔ ∀ c ∈ t, isBlank c = true := by
  simp [trimEnd]

theorem trimStart_append_cons {c : Char} (hc : isBlank c = false) (s t : Text) :
    trimStart (s ++ c :: t) = trimStart s ++ c :: t := by
  rw [trimStart, trimStart, List.dropWhile_append]
  split
  next hall =>
    rw [List.dropWhile_cons_of_neg (by simp [hc]), List.isEmpty_iff.1 hall, List.nil_append]
  next => rfl

theorem trimEnd_append_cons {c : Char} (hc : isBlank c = false) (s t : Text) :
    trimEnd (s ++ c :: t) = s ++ c :: trimEnd t := by
  have hback := trimStart_append_cons hc t.reverse s.reverse
  rw [trimStart, trimStart] at hback
  simp [trimEnd, hback]

/-- Nothing is left only of white space. -/
theorem trim_eq_nil_iff {t : Text} : trim t = [] ↔ ∀ c ∈ t, isBlank c = true := by
  rw [trim, trimEnd_eq_nil_iff]
  obtain ⟨front, ht, hfront⟩ := exists_trimStart t
  constructor
  · intro h c hc
    rw [ht] at hc
    exact (List.mem_append.1 hc).elim (hfront c) (h c)
  · intro h c hc
    exact h c (by rw [ht]; exact List.mem_append_right front hc)

theorem isBlank_head_trimStart (t : Text) : ∀ c ∈ (trimStart t).head?, isBlank c = false := by
  intro c hc
  have h := List.head?_dropWhile_not isBlank t
  rw [trimStart] at hc
  simpa [Option.mem_def.1 hc] using h

theorem isBlank_getLast_trimEnd (t : Text) : ∀ c ∈ (trimEnd t).getLast?, isBlank c = false := by
  intro c hc
  rw [trimEnd, List.getLast?_reverse] at hc
  exact isBlank_head_trimStart t.reverse c hc

theorem isBlank_head_trim (t : Text) : ∀ c ∈ (trim t).head?, isBlank c = false := by
  intro c hc
  obtain ⟨front, back, -, hstart, -⟩ := exists_trim t
  obtain ⟨u, hu⟩ := List.head?_eq_some_iff.1 hc
  apply isBlank_head_trimStart t c
  rw [hstart, hu]
  rfl

/-- A text without white space at its ends is left as it is. -/
theorem trim_eq_self {t : Text} (hhead : ∀ c ∈ t.head?, isBlank c = false)
    (hlast : ∀ c ∈ t.getLast?, isBlank c = false) : trim t = t := by
  have hfront : ∀ {s : Text}, (∀ c ∈ s.head?, isBlank c = false) → trimStart s = s := by
    intro s hs
    cases s with
    | nil => rfl
    | cons c s => exact List.dropWhile_cons_of_neg (by simp [hs c rfl])
  have hback := hfront (s := t.reverse) (by simpa using hlast)
  rw [trim, hfront hhead, trimEnd]
  rw [trimStart] at hback
  rw [hback, List.reverse_reverse]

theorem trim_trim (t : Text) : trim (trim t) = trim t :=
  trim_eq_self (isBlank_head_trim t) (isBlank_getLast_trimEnd (trimStart t))

end CallLint.Text
