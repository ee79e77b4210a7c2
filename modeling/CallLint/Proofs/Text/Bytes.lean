import CallLint.Text
import Mathlib.Tactic.Common

/-!
# Characters as bytes

In UTF-8 an ASCII character is one byte, and no byte of a longer character is equal to one of
these.

* `head?_utf8_eq_iff`: the first byte of a text tells whether it begins with an ASCII character.
-/

namespace CallLint

namespace Text

theorem utf8Size_eq_one_iff {c : Char} : c.utf8Size = 1 ↔ c.toNat < 128 := by
  rw [Char.utf8Size_eq_one_iff, UInt32.le_iff_toNat_le]
  show c.toNat ≤ 127 ↔ c.toNat < 128
  omega

theorem utf8EncodeChar_of_lt {c : Char} (hc : c.toNat < 128) :
    String.utf8EncodeChar c = [c.toUInt8] :=
  String.utf8EncodeChar_eq_singleton (utf8Size_eq_one_iff.2 hc)

theorem toNat_toUInt8 {c : Char} (hc : c.toNat < 128) : c.toUInt8.toNat = c.toNat := by
  show c.toNat % 256 = c.toNat
  omega

theorem toUInt8_eq_iff {c d : Char} (hc : c.toNat < 128) (hd : d.toNat < 128) :
    c.toUInt8 = d.toUInt8 ↔ c = d := by
  rw [← UInt8.toNat_inj, toNat_toUInt8 hc, toNat_toUInt8 hd, Char.toNat_inj]

/-- No byte of a longer character is an ASCII character. -/
theorem le_of_mem_utf8EncodeChar {c : Char} (hc : ¬ c.toNat < 128) :
    ∀ b ∈ String.utf8EncodeChar c, 128 ≤ b.toNat := by
  have hv : c.val.toNat = c.toNat := rfl
  intro b hb
  unfold String.utf8EncodeChar at hb
  simp only [hv] at hb
  split at hb
  · omega
  split at hb
  · simp only [List.mem_cons, List.not_mem_nil, or_false] at hb
    rcases hb with rfl | rfl
    all_goals
      rw [UInt8.toNat_ofNat']
      omega
  split at hb
  · simp only [List.mem_cons, List.not_mem_nil, or_false] at hb
    rcases hb with rfl | rfl | rfl
    all_goals
      rw [UInt8.toNat_ofNat']
      omega
  · simp only [List.mem_cons, List.not_mem_nil, or_false] at hb
    rcases hb with rfl | rfl | rfl | rfl
    all_goals
      rw [UInt8.toNat_ofNat']
      omega

theorem ne_toUInt8 {b : UInt8} (hb : 128 ≤ b.toNat) {c : Char} (hc : c.toNat < 128) :
    b ≠ c.toUInt8 := by
  rintro rfl
  rw [toNat_toUInt8 hc] at hb
  omega

/-- The first byte of a text is an ASCII character if and only if the first character is. -/
theorem head?_utf8_eq_iff {c : Char} (hc : c.toNat < 128) (t : Text) :
    (utf8 t).head? = some c.toUInt8 ↔ t.head? = some c := by
  cases t with
  | nil => simp
  | cons d t =>
    rw [utf8_cons, List.head?_cons, Option.some.injEq]
    by_cases hd : d.toNat < 128
    · rw [utf8EncodeChar_of_lt hd, List.singleton_append, List.head?_cons, Option.some.injEq,
        toUInt8_eq_iff hd hc]
    · obtain ⟨b, bs, hbs⟩ := List.exists_cons_of_length_pos
        (l := String.utf8EncodeChar d) (by rw [String.length_utf8EncodeChar]; exact d.utf8Size_pos)
      have hb : 128 ≤ b.toNat := le_of_mem_utf8EncodeChar hd b (by simp [hbs])
      rw [hbs, List.cons_append, List.head?_cons, Option.some.injEq]
      refine iff_of_false (ne_toUInt8 hb hc) ?_
      rintro rfl
      exact hd hc

end Text

end CallLint
