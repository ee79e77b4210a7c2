import CallLint.Text.Escape
import Mathlib.Tactic.Common

/-!
# Units of a text

`Units stop t` says without any reading that `t` is made of whole units: a backslash with the
character after it, or a single character that is neither a backslash nor one of the characters in
`stop`. A text that is read up to its end may break off in the middle of a unit, and then has a
backslash at its end (`Breaks`).

* `runs_readUntil`, `readUntil_of_runs`: reading takes exactly the units in front of a character
  that stops it, or everything when there is no such character.
-/

namespace CallLint.Text

/-- The text is made of whole units, none of which is a single character in `stop`. -/
inductive Units (stop : Char → Bool) : Text → Prop
  | nil : Units stop []
  | escape (c : Char) {t : Text} (ht : Units stop t) : Units stop ('\\' :: c :: t)
  | plain {c : Char} {t : Text} (hc : c ≠ '\\') (hs : stop c = false) (ht : Units stop t) :
      Units stop (c :: t)

/-- The text is made of whole units and a backslash alone at its end. -/
def Breaks (stop : Char → Bool) (t : Text) : Prop := ∃ u, Units stop u ∧ t = u ++ ['\\']

/-- The text is what is read when `after` is the text behind it. -/
def Runs (stop : Char → Bool) (t after : Text) : Prop :=
  (Units stop t ∧ ∀ c ∈ after.head?, stop c = true) ∨ (Breaks stop t ∧ after = [])

variable {stop : Char → Bool}

theorem units_of_forall {t : Text} (h : ∀ c ∈ t, c ≠ '\\' ∧ stop c = false) : Units stop t := by
  induction t with
  | nil => exact .nil
  | cons c t ih =>
    obtain ⟨hc, hs⟩ := h c List.mem_cons_self
    exact .plain hc hs (ih fun d hd => h d (List.mem_cons_of_mem _ hd))

theorem Breaks.single : Breaks stop ['\\'] := ⟨[], .nil, rfl⟩

theorem Breaks.escape {t : Text} (c : Char) (h : Breaks stop t) :
    Breaks stop ('\\' :: c :: t) := by
  obtain ⟨u, hu, rfl⟩ := h
  exact ⟨'\\' :: c :: u, .escape c hu, rfl⟩

theorem Breaks.plain {c : Char} {t : Text} (hc : c ≠ '\\') (hs : stop c = false)
    (h : Breaks stop t) : Breaks stop (c :: t) := by
  obtain ⟨u, hu, rfl⟩ := h
  exact ⟨c :: u, .plain hc hs hu, rfl⟩

theorem Runs.escape {t after : Text} (c : Char) (h : Runs stop t after) :
    Runs stop ('\\' :: c :: t) after :=
  h.imp (fun h => ⟨.escape c h.1, h.2⟩) (fun h => ⟨h.1.escape c, h.2⟩)

theorem Runs.plain {c : Char} {t after : Text} (hc : c ≠ '\\') (hs : stop c = false)
    (h : Runs stop t after) : Runs stop (c :: t) after :=
  h.imp (fun h => ⟨.plain hc hs h.1, h.2⟩) (fun h => ⟨h.1.plain hc hs, h.2⟩)

/-- The first character of units begins one of them. -/
theorem Units.head {c : Char} {t : Text} (hstop : stop '\\' = false) (h : Units stop (c :: t)) :
    stop c = false := by
  cases h with
  | escape _ _ => exact hstop
  | plain _ hs _ => exact hs

theorem Runs.head {c : Char} {t after : Text} (hstop : stop '\\' = false)
    (h : Runs stop (c :: t) after) : stop c = false := by
  rcases h with ⟨hu, -⟩ | ⟨⟨u, hu, ht⟩, -⟩
  · exact hu.head hstop
  · cases u with
    | nil =>
      obtain ⟨rfl, -⟩ := List.cons.inj ht
      exact hstop
    | cons d u =>
      obtain ⟨rfl, -⟩ := List.cons.inj ht
      exact hu.head hstop

/-! ## Reading -/

theorem readUntil_plain {c : Char} (hc : c ≠ '\\') (hs : stop c = false) (t : Text) :
    readUntil stop (c :: t) = (c :: (readUntil stop t).1, (readUntil stop t).2) := by
  rw [readUntil.eq_3]
  · simp [hs]
  · rintro d u rfl
    exact absurd rfl hc

theorem readUntil_of_stop {after : Text} (hstop : stop '\\' = false)
    (h : ∀ c ∈ after.head?, stop c = true) : readUntil stop after = ([], after) := by
  cases after with
  | nil => rfl
  | cons c t =>
    have hc : stop c = true := h c rfl
    rw [readUntil.eq_3]
    · simp [hc]
    · rintro d u rfl
      simp [hstop] at hc

theorem readUntil_append_of_units {s : Text} (h : Units stop s) (after : Text) :
    readUntil stop (s ++ after) =
      (s ++ (readUntil stop after).1, (readUntil stop after).2) := by
  induction h with
  | nil => rfl
  | escape c _ ih => simp [readUntil, ih]
  | plain hc hs _ ih => rw [List.cons_append, readUntil_plain hc hs, ih, List.cons_append]

theorem readUntil_of_runs {t after : Text} (hstop : stop '\\' = false) (h : Runs stop t after) :
    readUntil stop (t ++ after) = (t, after) := by
  rcases h with ⟨hu, ha⟩ | ⟨⟨u, hu, rfl⟩, rfl⟩
  · rw [readUntil_append_of_units hu, readUntil_of_stop hstop ha, List.append_nil]
  · rw [List.append_nil, readUntil_append_of_units hu]
    simp [readUntil, hstop]

theorem runs_readUntil (stop : Char → Bool) (t : Text) :
    Runs stop (readUntil stop t).1 (readUntil stop t).2 := by
  fun_induction readUntil stop t with
  | case1 => exact .inl ⟨.nil, by simp⟩
  | case2 c t rest ih => exact ih.escape c
  | case3 c t _ hc =>
    refine .inl ⟨.nil, ?_⟩
    intro d hd
    obtain rfl : c = d := by simpa using hd
    exact hc
  | case4 c t hne hc rest ih =>
    by_cases hb : c = '\\'
    · subst hb
      cases t with
      | nil => exact .inr ⟨.single, rfl⟩
      | cons d t => exact absurd rfl (hne d t rfl)
    · exact ih.plain hb (by simpa using hc)

end CallLint.Text
