import CallLint.Proofs.Argument.Joining

/-!
# Arguments by themselves

The piece of an argument is cut out of a text where the scan of that text stands outside
everything. So the scan of the piece alone goes over it in the same way and finds no separator, and
it finds none either when the white space around the piece is taken away.

* `length_segments_first`: a segment by itself is a single segment.
* `length_segments_trim`: so it is without the white space around it.
* `split_raw`, `split_trim`: an argument is found again in its piece.
-/

namespace CallLint

open Text

namespace Cut.Reading

/-- A text that is a single segment is this segment. -/
theorem segments_eq_single {r : Reading} {t : Text} (h : (r.segments t).length = 1) :
    r.segments t = [(t, none)] := by
  obtain ⟨segments, last, hsegments, -⟩ := exists_segments_last r t
  have hflat := flatten_segments r t
  obtain rfl : segments = [] := by simpa [hsegments] using h
  rw [hsegments] at hflat ⊢
  obtain rfl : last = t := by simpa using hflat
  rfl

/-- In front of an empty segment there is nothing for the scan to see but a separator. -/
theorem head?_of_segments {r : Reading} {t : Text} {first : Text × Option Separator}
    {rest : List (Text × Option Separator)} (h : r.segments t = first :: rest) :
    t.head? = first.1.head? ∨ first.1 = [] ∧ ∃ s : Separator, t.head? = some s.char := by
  cases t with
  | nil =>
    obtain ⟨rfl, -⟩ := List.cons.inj h
    exact .inl rfl
  | cons c t =>
    obtain ⟨next, others, hnext⟩ :=
      List.exists_cons_of_ne_nil (segments_ne_nil (r.step c t.head?).1 t)
    rw [segments, hnext] at h
    cases hsep : (r.step c t.head?).2 with
    | none =>
      rw [hsep] at h
      obtain ⟨rfl, -⟩ := List.cons.inj h
      exact .inl rfl
    | some s =>
      rw [hsep] at h
      obtain ⟨rfl, -⟩ := List.cons.inj h
      obtain ⟨-, rfl, -⟩ := eq_of_step_eq_some hsep
      exact .inr ⟨rfl, s, rfl⟩

/-- The first segment of a text is a single segment by itself, from the same place, and each of the
others is one from the start. -/
theorem length_segments_first {r : Reading} {t : Text} {first : Text × Option Separator}
    {rest : List (Text × Option Separator)} (h : r.segments t = first :: rest) :
    (r.segments first.1).length = 1 ∧
      ∀ segment ∈ rest, ((plain 0).segments segment.1).length = 1 := by
  induction t generalizing r first rest with
  | nil =>
    obtain ⟨rfl, rfl⟩ := List.cons.inj h
    exact ⟨rfl, by simp⟩
  | cons c t ih =>
    obtain ⟨next, others, hnext⟩ :=
      List.exists_cons_of_ne_nil (segments_ne_nil (r.step c t.head?).1 t)
    obtain ⟨hfirst, hothers⟩ := ih hnext
    rw [segments, hnext] at h
    cases hsep : (r.step c t.head?).2 with
    | some s =>
      rw [hsep] at h
      obtain ⟨rfl, rfl⟩ := List.cons.inj h
      obtain ⟨hr, -, hback⟩ := eq_of_step_eq_some hsep
      rw [hback, hr] at hfirst
      refine ⟨rfl, fun segment hsegment => ?_⟩
      rcases List.mem_cons.1 hsegment with rfl | hmem
      · exact hfirst
      · exact hothers segment hmem
    | none =>
      rw [hsep] at h
      obtain ⟨rfl, rfl⟩ := List.cons.inj h
      refine ⟨?_, hothers⟩
      -- the piece ends where a separator stood, and no mark of a comment looks at that
      have hstep : r.step c next.1.head? = r.step c t.head? := by
        rcases head?_of_segments hnext with hhead | ⟨hempty, s, hhead⟩
        · rw [hhead]
        · rw [hempty, hhead]
          cases s with
          | comma => exact (step_ahead (by decide) (by decide) r c).symm
          | semicolon => exact (step_ahead (by decide) (by decide) r c).symm
      rw [segments, hstep, hsep]
      simpa using hfirst

theorem length_segments_of_mem {t : Text} {segment : Text × Option Separator}
    (h : segment ∈ (plain 0).segments t) : ((plain 0).segments segment.1).length = 1 := by
  obtain ⟨first, rest, hsegments⟩ := List.exists_cons_of_ne_nil (segments_ne_nil (plain 0) t)
  obtain ⟨hfirst, hrest⟩ := length_segments_first hsegments
  rw [hsegments] at h
  rcases List.mem_cons.1 h with rfl | hmem
  · exact hfirst
  · exact hrest segment hmem

/-- The segments of a front part of a text are not more than those of the text. -/
theorem length_attach {segments rest : List (Text × Option Separator)} (hrest : rest ≠ []) :
    segments.length ≤ (attach segments rest).length := by
  induction segments with
  | nil => exact Nat.zero_le _
  | cons segment segments ih =>
    cases segments with
    | nil =>
      rw [attach, List.length_modifyHead]
      exact List.length_pos_iff.2 hrest
    | cons next segments => exact Nat.succ_le_succ ih

/-- Without the white space around it, a text has no more segments. -/
theorem length_segments_trim (t : Text) :
    ((plain 0).segments (trim t)).length ≤ ((plain 0).segments t).length := by
  obtain ⟨front, back, ht, -, hfront, hback⟩ := exists_trim t
  have hne : ∀ c, isBlank c = false → back.head? ≠ some c := by
    intro c hc hhead
    have hblank := hback c (List.mem_of_mem_head? hhead)
    rw [hc] at hblank
    cases hblank
  have hcrosses : Crosses 0 front (trim t ++ back) := crosses_space hfront
  have hsegments := hcrosses.segments
  rw [← ht] at hsegments
  calc
    ((plain 0).segments (trim t)).length
      ≤ ((plain 0).segments (trim t ++ back)).length := by
        rw [segments_append (hne '*' (by decide)) (hne '/' (by decide))]
        exact length_attach (segments_ne_nil _ _)
    _ = ((plain 0).segments t).length := by rw [hsegments, List.length_modifyHead]

end Cut.Reading

namespace Argument

open Cut Cut.Reading

theorem ofText_of_length {t : Text} (h : ((plain 0).segments t).length = 1) :
    ofText t = [ofPiece t none] := by
  rw [ofText, segments_eq_single h]
  rfl

/-- The white space around a piece makes no difference to what is read from the piece. -/
theorem ofPiece_trim (raw : Text) (separator : Option Separator) :
    ofPiece (trim raw) separator = { ofPiece raw separator with raw := trim raw } := by
  simp only [ofPiece, trim_trim]
  cases Key.read? (dropComments false (trim raw)) with
  | none => rfl
  | some found => rfl

/-- The piece of an argument is a single segment, and makes this argument. -/
theorem piece_of_mem {t : Text} {a : Argument} (ha : a ∈ split t) :
    ((plain 0).segments a.raw).length = 1 ∧ ofPiece a.raw none = { a with separator := none } := by
  by_cases hblank : ∀ c ∈ t, Text.isBlank c = true
  · rw [(split_eq_nil_iff t).2 hblank] at ha
    cases ha
  · rw [split_eq_ofText hblank] at ha
    obtain ⟨segment, hsegment, rfl⟩ := List.mem_map.1 ha
    rw [ofPiece_separator, raw_ofPiece]
    exact ⟨length_segments_of_mem hsegment, rfl⟩

/-- An argument is found again when its piece is split. -/
theorem split_raw {t : Text} {a : Argument} (ha : a ∈ split t)
    (hblank : ¬ ∀ c ∈ a.raw, Text.isBlank c = true) :
    split a.raw = [{ a with separator := none }] := by
  obtain ⟨hlength, hpiece⟩ := piece_of_mem ha
  rw [split_eq_ofText hblank, ofText_of_length hlength, hpiece]

/-- It is found again without the white space around it. -/
theorem split_trim {t : Text} {a : Argument} (ha : a ∈ split t)
    (hblank : ¬ ∀ c ∈ a.raw, Text.isBlank c = true) :
    split (trim a.raw) = [{ a with raw := trim a.raw, separator := none }] := by
  obtain ⟨hlength, hpiece⟩ := piece_of_mem ha
  have hshown : ¬ ∀ c ∈ trim a.raw, Text.isBlank c = true := by
    rw [← trim_eq_nil_iff, trim_trim, trim_eq_nil_iff]
    exact hblank
  have htrim : ((plain 0).segments (trim a.raw)).length = 1 :=
    Nat.le_antisymm (hlength ▸ length_segments_trim a.raw)
      (List.length_pos_iff.2 (segments_ne_nil _ _))
  rw [split_eq_ofText hshown, ofText_of_length htrim, ofPiece_trim, hpiece]

/-- An argument that is not blank has a piece that is not white space. -/
theorem not_blank_raw {t : Text} {a : Argument} (ha : a ∈ split t) (hshown : a.isBlank = false) :
    ¬ ∀ c ∈ a.raw, Text.isBlank c = true := by
  intro hraw
  obtain ⟨-, hpiece⟩ := piece_of_mem ha
  rw [ofPiece_blank hraw] at hpiece
  have hkey : none = a.key := congrArg key hpiece
  have hvalue : [] = a.value := congrArg value hpiece
  simp [isBlank, ← hkey, ← hvalue] at hshown

end Argument

end CallLint
