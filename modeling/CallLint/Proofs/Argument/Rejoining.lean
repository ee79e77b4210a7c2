import CallLint.Proofs.Argument.Agreement

/-!
# Putting arguments together again

Splitting a text into arguments loses nothing: the pieces with the separators after them make up
the text. Within a piece, key and value stand in this order, with nothing between them but white
space and one sign.

* `flatten_segments`, `exists_segments_last`: the segments of a text, and where separators are.
* `suffix_dropComments`, `exists_read?`: what is taken from the front of a piece.
* `split_rejoins`: what follows for the arguments of a text.
-/

namespace CallLint

open Text

/-! ## Segments -/

namespace Cut.Reading

/-- The segments with their separators make up the text. -/
theorem flatten_segments (r : Reading) (t : Text) :
    ((r.segments t).map fun segment =>
      segment.1 ++ (segment.2.map Separator.char).toList).flatten = t := by
  induction t generalizing r with
  | nil => rfl
  | cons c t ih =>
    have hrest := ih (r.step c t.head?).1
    rw [segments]
    cases hsep : (r.step c t.head?).2 with
    | none =>
      obtain ⟨front, s, segments, back, hsegments, -⟩ := exists_segments (r.step c t.head?).1 t
      rw [hsegments] at hrest ⊢
      simpa using hrest
    | some s =>
      obtain ⟨-, hc, -⟩ := eq_of_step_eq_some hsep
      simpa [hc] using hrest

/-- Only the last segment has no separator. -/
theorem exists_segments_last (r : Reading) (t : Text) :
    ∃ segments last, r.segments t = segments ++ [(last, none)] ∧
      ∀ segment ∈ segments, segment.2.isSome = true := by
  induction t generalizing r with
  | nil => exact ⟨[], [], rfl, by simp⟩
  | cons c t ih =>
    obtain ⟨segments, last, hsegments, hsome⟩ := ih (r.step c t.head?).1
    rw [Reading.segments]
    cases (r.step c t.head?).2 with
    | none =>
      rw [hsegments]
      cases segments with
      | nil => exact ⟨[], c :: last, rfl, by simp⟩
      | cons segment segments =>
        refine ⟨(c :: segment.1, segment.2) :: segments, last, rfl, ?_⟩
        simpa using hsome
    | some s =>
      refine ⟨([], some s) :: segments, last, by rw [hsegments]; rfl, ?_⟩
      simpa using hsome

end Cut.Reading

/-! ## Keys -/

namespace Key

theorem sigil_append (t : Text) : (sigil t).1 ++ (sigil t).2 = t := by
  unfold sigil
  split
  · rfl
  · rfl
  · rfl

theorem identifier?_append {t name rest : Text} (h : identifier? t = some (name, rest)) :
    name ++ rest = t := by
  have happend := Place.start.run_append t
  unfold identifier? at h
  split at h
  next word place rest' hrun =>
    split at h
    · obtain ⟨rfl, rfl⟩ : word = name ∧ rest' = rest := by simpa using h
      rwa [hrun] at happend
    · cases h

/-- Between a key and its value stand white space and one sign, which is no doubled `=`. -/
theorem value?_eq_some_iff {t value : Text} :
    value? t = some value ↔
      ∃ gap mark, t = gap ++ mark :: value ∧ (∀ c ∈ gap, isBlank c = true) ∧
        (mark = ':' ∨ mark = '=') ∧ ¬ (mark = '=' ∧ value.head? = some '=') := by
  constructor
  · intro h
    obtain ⟨gap, ht, hgap⟩ := exists_trimStart t
    unfold value? at h
    split at h
    next rest hstart =>
      obtain rfl := Option.some.inj h
      exact ⟨gap, ':', by rw [ht, hstart], hgap, .inl rfl, by simp⟩
    · cases h
    next rest hdouble hstart =>
      obtain rfl := Option.some.inj h
      refine ⟨gap, '=', by rw [ht, hstart], hgap, .inr rfl, ?_⟩
      rintro ⟨-, hhead⟩
      obtain ⟨u, rfl⟩ := List.head?_eq_some_iff.1 hhead
      exact hdouble u rfl
    · cases h
  · rintro ⟨gap, mark, rfl, hgap, hmark, hsingle⟩
    have hstart : ∀ c u, isBlank c = false → trimStart (gap ++ c :: u) = c :: u := by
      intro c u hc
      rw [trimStart_append_cons hc, trimStart_eq_nil_iff.2 hgap, List.nil_append]
    rcases hmark with rfl | rfl
    · rw [value?, hstart ':' value (by decide)]
      rfl
    · rw [value?, hstart '=' value (by decide)]
      cases value with
      | nil => rfl
      | cons d value =>
        have hd : d ≠ '=' := by
          rintro rfl
          exact hsingle ⟨rfl, rfl⟩
        simp [hd]

theorem read?_eq_some_iff {t key value : Text} :
    read? t = some (key, value) ↔ ∃ name rest, identifier? (sigil t).2 = some (name, rest) ∧
      value? rest = some value ∧ key = (sigil t).1 ++ name := by
  unfold read?
  cases identifier? (sigil t).2 with
  | none => simp
  | some found =>
    obtain ⟨name, rest⟩ := found
    constructor
    · intro h
      obtain ⟨value', hvalue, hpair⟩ := Option.map_eq_some_iff.1 h
      obtain ⟨rfl, rfl⟩ := Prod.mk.inj hpair
      exact ⟨name, rest, rfl, hvalue, rfl⟩
    · rintro ⟨name', rest', hfound, hvalue, rfl⟩
      obtain ⟨rfl, rfl⟩ := Prod.mk.inj (Option.some.inj hfound)
      simp [hvalue]

theorem exists_read? {t key value : Text} (h : read? t = some (key, value)) :
    ∃ gap mark, t = key ++ (gap ++ mark :: value) ∧ (∀ c ∈ gap, isBlank c = true) ∧
      (mark = ':' ∨ mark = '=') := by
  obtain ⟨name, rest, hname, hvalue, rfl⟩ := read?_eq_some_iff.1 h
  obtain ⟨gap, mark, rfl, hgap, hmark, -⟩ := value?_eq_some_iff.1 hvalue
  refine ⟨gap, mark, ?_, hgap, hmark⟩
  calc
    t = (sigil t).1 ++ (sigil t).2 := (sigil_append t).symm
    _ = (sigil t).1 ++ (name ++ (gap ++ mark :: value)) := by rw [identifier?_append hname]
    _ = (sigil t).1 ++ name ++ (gap ++ mark :: value) := (List.append_assoc ..).symm

end Key

namespace Argument

/-! ## Pieces -/

/-- Comments are dropped from the front of a text. -/
theorem suffix_dropComments (inside : Bool) (t : Text) : dropComments inside t <:+ t := by
  fun_induction dropComments inside t with
  | case1 => exact List.suffix_rfl
  | case2 t ih => exact (ih.trans (List.suffix_cons _ _)).trans (List.suffix_cons _ _)
  | case3 => exact List.suffix_rfl
  | case4 t ih => exact ih.trans (List.suffix_cons _ _)
  | case5 inside t _ ih => exact (ih.trans (List.suffix_cons _ _)).trans (List.suffix_cons _ _)
  | case6 c t _ _ ih => exact ih.trans (List.suffix_cons _ _)
  | case7 inside c t _ _ _ _ ih => exact ih.trans (List.suffix_cons _ _)
  | case8 => exact List.suffix_rfl

/-- What is left does not begin with white space. -/
theorem isBlank_head_dropComments (inside : Bool) (t : Text) :
    ∀ c ∈ (dropComments inside t).head?, Text.isBlank c = false := by
  fun_induction dropComments inside t with
  | case1 => simp
  | case2 t ih => exact ih
  | case3 inside t _ => simpa using (by decide : Text.isBlank '*' = false)
  | case4 t ih => exact ih
  | case5 inside t _ ih => exact ih
  | case6 c t _ _ ih => exact ih
  | case7 inside c t _ _ _ _ ih => exact ih
  | case8 inside c t _ _ _ hc => simpa using hc

/-- What is left of a trimmed text is trimmed. -/
theorem trim_dropComments (t : Text) :
    trim (dropComments false (trim t)) = dropComments false (trim t) := by
  apply trim_eq_self (isBlank_head_dropComments false (trim t))
  intro c hc
  obtain ⟨front, hfront⟩ := suffix_dropComments false (trim t)
  apply isBlank_getLast_trimEnd (trimStart t) c
  rw [← trim, ← hfront, List.getLast?_append, Option.mem_def.1 hc]
  rfl

/-- How key and value stand in the piece of an argument. -/
structure Composed (a : Argument) : Prop where
  trimmed : trim a.value = a.value
  value : ∃ front back, a.raw = front ++ (a.value ++ back)
  key : ∀ key, a.key = some key → ∃ front gap mark gap' back,
    a.raw = front ++ (key ++ (gap ++ mark :: (gap' ++ (a.value ++ back)))) ∧
      (∀ c ∈ gap, Text.isBlank c = true) ∧ (mark = ':' ∨ mark = '=') ∧
      ∀ c ∈ gap', Text.isBlank c = true

theorem composed_ofPiece (raw : Text) (separator : Option Separator) :
    (ofPiece raw separator).Composed := by
  obtain ⟨front, back, hraw, -, -, -⟩ := exists_trim raw
  obtain ⟨comments, hbody⟩ := suffix_dropComments false (trim raw)
  have htrimmed := trim_dropComments raw
  rw [← hbody] at hraw
  unfold ofPiece
  generalize dropComments false (trim raw) = body at hraw htrimmed
  cases hkey : Key.read? body with
  | none =>
    refine ⟨by simpa [hkey] using htrimmed, ⟨front ++ comments, back, ?_⟩, ?_⟩
    · simp [hkey, hraw]
    · simp [hkey]
  | some found =>
    obtain ⟨key, value⟩ := found
    obtain ⟨gap, mark, rfl, hgap, hmark⟩ := Key.exists_read? hkey
    obtain ⟨gap', rest, hvalue, -, hgap', -⟩ := exists_trim value
    have hplace : raw = (front ++ comments) ++
        (key ++ (gap ++ mark :: (gap' ++ (trim value ++ (rest ++ back))))) := by
      conv_lhs => rw [hraw, hvalue]
      simp
    refine ⟨by simpa [hkey] using trim_trim value, ?_, ?_⟩
    · refine ⟨front ++ comments ++ (key ++ (gap ++ mark :: gap')), rest ++ back, ?_⟩
      simpa [hkey] using hplace
    · intro k hk
      obtain rfl : key = k := by simpa [hkey] using hk
      exact ⟨front ++ comments, gap, mark, gap', rest ++ back, by simpa [hkey] using hplace, hgap,
        hmark, hgap'⟩

/-- The piece of an argument with the separator after it. -/
def text (a : Argument) : Text := a.raw ++ (a.separator.map Separator.char).toList

theorem flatten_ofText (t : Text) : ((ofText t).map text).flatten = t := by
  have h := Cut.Reading.flatten_segments (Cut.Reading.plain 0) t
  rw [ofText, List.map_map]
  simpa [Function.comp_def, text] using h

end Argument

open Argument

/-- A text has no arguments if it is nothing but white space. Otherwise its arguments with the
separators after them make up the text, and all but the last have a separator. In each of them
stand the trimmed value and, before it, the key if there is one. -/
theorem split_rejoins (t : Text) :
    (split t = [] ↔ ∀ c ∈ t, Text.isBlank c = true) ∧
    (split t ≠ [] → ∃ front last, split t = front ++ [last] ∧
      (∀ a ∈ front, a.separator.isSome = true) ∧ last.separator = none ∧
      ((split t).map text).flatten = t) ∧
    ∀ a ∈ split t, a.Composed := by
  refine ⟨split_eq_nil_iff t, ?_, ?_⟩
  · intro hne
    have hblank : ¬ ∀ c ∈ t, Text.isBlank c = true := fun h => hne ((split_eq_nil_iff t).2 h)
    obtain ⟨segments, last, hsegments, hsome⟩ :=
      Cut.Reading.exists_segments_last (Cut.Reading.plain 0) t
    rw [split_eq_ofText hblank]
    refine ⟨segments.map fun segment => ofPiece segment.1 segment.2, ofPiece last none, ?_, ?_,
      separator_ofPiece last none, flatten_ofText t⟩
    · rw [ofText, hsegments, List.map_append]
      rfl
    · intro a ha
      obtain ⟨segment, hmem, rfl⟩ := List.mem_map.1 ha
      rw [separator_ofPiece]
      exact hsome segment hmem
  · intro a ha
    rw [split] at ha
    split at ha
    · cases ha
    · obtain ⟨piece, -, rfl⟩ := List.mem_map.1 ha
      exact composed_ofPiece piece.1 piece.2

end CallLint
