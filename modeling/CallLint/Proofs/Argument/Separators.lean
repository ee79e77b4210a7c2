import CallLint.Proofs.Argument.Agreement

/-!
# Separators

Where the arguments of a text are separated can be said without bytes and without a place in the
middle of an escape. A reader that goes from character to character takes an escape, the beginning
or the end of a comment, and any other character as a whole.

* `separators`: the separators that this reader finds.
* `cuts_eq_separators`: they are the cuts of the text, which are found byte by byte.
* `split_at_separators`: arguments end exactly there, and at the end of the text.
-/

namespace CallLint

open Text

namespace Cut

/-- The number of open parentheses after a character; a `)` too many changes nothing. -/
def nesting (depth : Nat) (c : Char) : Nat :=
  if c = '(' then depth + 1 else if c = ')' then depth - 1 else depth

/-- The separator that a character is within so many parentheses, if it is one. -/
def separator? (depth : Nat) (c : Char) : Option Separator :=
  if depth ≠ 0 then none
  else if c = ',' then some .comma
  else if c = ';' then some .semicolon
  else none

/-- The separators of a text that begins at the byte `offset` within so many parentheses. Strings
and comments without an end run to the end of the text. -/
def separators : Context → Nat → Nat → Text → List Cut
  | _, _, _, [] => []
  | .comment, depth, offset, '*' :: '/' :: t => separators .plain depth (offset + 2) t
  | .comment, depth, offset, c :: t => separators .comment depth (offset + c.utf8Size) t
  | .quoted mark, depth, offset, '\\' :: c :: t =>
    separators (.quoted mark) depth (offset + 1 + c.utf8Size) t
  | .quoted mark, depth, offset, c :: t =>
    separators (if c = mark then .plain else .quoted mark) depth (offset + c.utf8Size) t
  | .plain, depth, offset, '\\' :: c :: t =>
    separators .plain depth (offset + 1 + c.utf8Size) t
  | .plain, depth, offset, '/' :: '*' :: t => separators .comment depth (offset + 2) t
  | .plain, depth, offset, c :: t =>
    let rest := separators (if isQuote c then .quoted c else .plain) (nesting depth c)
      (offset + c.utf8Size) t
    match separator? depth c with
    | none => rest
    | some separator => ⟨offset, separator⟩ :: rest

namespace Reading

variable {depth offset : Nat} {c : Char} {t : Text}

/-! ## Whole units -/

theorem cuts_backslash {context : Context} (hcontext : context ≠ .comment) (c : Char) :
    (⟨context, depth, false⟩ : Reading).cuts offset ('\\' :: c :: t) =
      (⟨context, depth, false⟩ : Reading).cuts (offset + 1 + c.utf8Size) t := by
  cases context with
  | comment => exact absurd rfl hcontext
  | _ => rfl

theorem step_in_comment {ahead : Option Char} (hend : c = '*' → ahead ≠ some '/') :
    (⟨.comment, depth, false⟩ : Reading).step c ahead = (⟨.comment, depth, false⟩, none) := by
  simpa [step] using hend

theorem step_in_quotes {mark : Char} (ahead : Option Char) (hslash : c ≠ '\\') :
    (⟨.quoted mark, depth, false⟩ : Reading).step c ahead =
      (⟨if c = mark then .plain else .quoted mark, depth, false⟩, none) := by
  simp only [step, Bool.false_eq_true, if_false, hslash]
  split
  · rfl
  · rfl

theorem step_in_plain {ahead : Option Char} (hslash : c ≠ '\\')
    (hopen : c = '/' → ahead ≠ some '*') :
    (plain depth).step c ahead =
      (⟨if isQuote c then .quoted c else .plain, nesting depth c, false⟩, separator? depth c) := by
  by_cases hq : isQuote c = true
  · rw [step_quote hq]
    rcases Token.isQuote_iff.1 hq with rfl | rfl
    · simp [nesting, separator?, isQuote]
    · simp [nesting, separator?, isQuote]
  by_cases hleft : c = '('
  · subst hleft
    simp [step, plain, nesting, separator?, isQuote]
  by_cases hright : c = ')'
  · subst hright
    simp [step, plain, nesting, separator?, isQuote]
  by_cases hsep : depth = 0 ∧ (c = ',' ∨ c = ';')
  · obtain ⟨rfl, rfl | rfl⟩ := hsep
    · rfl
    · rfl
  · have hnone : separator? depth c = none := by
      simp only [separator?, ne_eq, ite_not]
      split
      next hd =>
        rw [if_neg fun h => hsep ⟨hd, .inl h⟩, if_neg fun h => hsep ⟨hd, .inr h⟩]
      · rfl
    rw [hnone, step_plain hslash (by simpa using hq) hleft hright hopen]
    · simp [plain, nesting, hq, hleft, hright]
    · intro hd
      exact ⟨fun h => hsep ⟨hd, .inl h⟩, fun h => hsep ⟨hd, .inr h⟩⟩

theorem cuts_char (hescape : ∀ d u, c = '\\' → t = d :: u → False)
    (hopen : ∀ u, c = '/' → t = '*' :: u → False) :
    (⟨.plain, depth, false⟩ : Reading).cuts offset (c :: t) =
      let rest := (⟨if isQuote c then .quoted c else .plain, nesting depth c, false⟩ : Reading).cuts
        (offset + c.utf8Size) t
      match separator? depth c with
      | none => rest
      | some separator => ⟨offset, separator⟩ :: rest := by
  by_cases hslash : c = '\\'
  · -- a backslash at the end of the text
    cases t with
    | nil =>
      subst hslash
      simp [cuts, step, separator?]
    | cons d t => exact absurd rfl (hescape d t hslash)
  · have hahead : c = '/' → t.head? ≠ some '*' := by
      intro hc hstar
      obtain ⟨u, hu⟩ := List.head?_eq_some_iff.1 hstar
      exact hopen u hc hu
    have hstep := @step_in_plain depth c t.head? hslash hahead
    rw [plain] at hstep
    rw [cuts]
    exact hstep ▸ rfl

/-- Reading whole units finds the same separators. -/
theorem cuts_eq_separators (context : Context) (depth offset : Nat) (t : Text) :
    (⟨context, depth, false⟩ : Reading).cuts offset t = separators context depth offset t := by
  fun_induction separators context depth offset t with
  | case1 => rfl
  | case2 depth offset t ih => exact ih
  | case3 depth offset c t hend ih =>
    have hstep : (⟨.comment, depth, false⟩ : Reading).step c t.head? =
        (⟨.comment, depth, false⟩, none) := by
      apply step_in_comment
      intro hc hslash
      obtain ⟨u, hu⟩ := List.head?_eq_some_iff.1 hslash
      exact hend u hc hu
    rw [cuts, hstep]
    exact ih
  | case4 mark depth offset c t ih => exact (cuts_backslash (by simp) c).trans ih
  | case5 mark depth offset c t hescape ih =>
    by_cases hslash : c = '\\'
    · -- a backslash at the end of the text
      cases t with
      | nil => simp [hslash, cuts, separators, step]
      | cons d t => exact absurd rfl (hescape d t hslash)
    · rw [cuts, step_in_quotes t.head? hslash]
      exact ih
  | case6 depth offset c t ih => exact (cuts_backslash (by simp) c).trans ih
  | case7 depth offset t ih => exact ih
  | case8 depth offset c t hescape hopen rest hsep ih =>
    rw [cuts_char hescape hopen, hsep]
    exact ih
  | case9 depth offset c t hescape hopen rest s hsep ih =>
    rw [cuts_char hescape hopen, hsep]
    exact congrArg (⟨offset, s⟩ :: ·) ih

/-- Each separator that is found stands in the text. -/
theorem charAt_of_mem_cuts (r : Reading) (before t : Text) :
    ∀ cut ∈ r.cuts (byteLength before) t,
      (before ++ t).CharAt cut.offset cut.separator.char := by
  intro cut hcut
  obtain ⟨front, back, rfl, hoffset, -⟩ := finish_of_mem_cuts r _ t cut hcut
  exact ⟨before ++ front, back, by simp, by rw [byteLength_append, hoffset]⟩

/-- The segments of a text end at its cuts. -/
theorem cuts_place (r : Reading) (offset : Nat) (t : Text) :
    (Argument.place offset ((r.segments t).map fun segment =>
        Argument.ofPiece segment.1 segment.2)).filterMap
      (fun p => p.1.separator.map (Cut.mk p.2.stop)) = r.cuts offset t := by
  induction t generalizing r offset with
  | nil => simp [segments, cuts, Argument.place]
  | cons c t ih =>
    have hrest := ih (r.step c t.head?).1 (offset + c.utf8Size)
    rw [segments, cuts]
    cases hsep : (r.step c t.head?).2 with
    | none =>
      obtain ⟨front, s, segments, back, hsegments, -⟩ := exists_segments (r.step c t.head?).1 t
      simp only [hsegments, List.modifyHead_cons, List.map_cons, Argument.place,
        Argument.raw_ofPiece, byteLength_cons, ← Nat.add_assoc] at hrest ⊢
      simpa [List.filterMap_cons] using hrest
    | some s =>
      obtain ⟨-, hc, -⟩ := eq_of_step_eq_some hsep
      have hsize : c.utf8Size = 1 := by rw [hc, s.utf8Size_char]
      rw [hsize] at hrest ⊢
      simpa [Argument.place] using hrest

end Reading

end Cut

namespace Argument

theorem covers_split (t : Text) : ∀ p ∈ place 0 (split t), p.2.Covers t p.1.raw := by
  intro p hp
  by_cases hblank : ∀ c ∈ t, Text.isBlank c = true
  · rw [(split_eq_nil_iff t).2 hblank] at hp
    cases hp
  · rw [split_eq_ofText hblank] at hp
    exact (covers_place (Cut.Reading.plain 0) [] t p hp).1

theorem cuts_split (t : Text) :
    (place 0 (split t)).filterMap (fun p => p.1.separator.map (Cut.mk p.2.stop)) = Cut.cuts t := by
  by_cases hblank : ∀ c ∈ t, Text.isBlank c = true
  · -- no separator is white space
    rw [(split_eq_nil_iff t).2 hblank, eq_comm, Cut.cuts_eq]
    apply List.eq_nil_iff_forall_not_mem.2
    intro cut hcut
    obtain ⟨front, back, ht, -⟩ := Cut.Reading.charAt_of_mem_cuts _ [] t cut hcut
    have hmem : cut.separator.char ∈ [] ++ t := by simp only [ht, List.mem_append_cons_self]
    have hchar := hblank _ hmem
    cases hs : cut.separator with
    | comma => exact absurd (hs ▸ hchar) (by decide)
    | semicolon => exact absurd (hs ▸ hchar) (by decide)
  · rw [split_eq_ofText hblank, Cut.cuts_eq]
    exact Cut.Reading.cuts_place (Cut.Reading.plain 0) 0 t

end Argument

/-- The arguments of a text are cut exactly at the commas and semicolons that a reader finds who
takes escapes, strings and comments as a whole. Each of these is a character of the text, and each
argument is the text between two such places, which are never in the middle of a character. -/
theorem split_at_separators (t : Text) :
    Cut.cuts t = Cut.separators .plain 0 0 t ∧
    (Argument.place 0 (Argument.split t)).filterMap
        (fun p => p.1.separator.map (Cut.mk p.2.stop)) = Cut.separators .plain 0 0 t ∧
    (∀ cut ∈ Cut.separators .plain 0 0 t, t.CharAt cut.offset cut.separator.char) ∧
    ∀ p ∈ Argument.place 0 (Argument.split t),
      p.2.Covers t p.1.raw ∧ p.2.start ≤ p.2.stop ∧
        t.Boundary p.2.start ∧ t.Boundary p.2.stop := by
  have hcuts : Cut.cuts t = Cut.separators .plain 0 0 t :=
    (Cut.cuts_eq t).trans (Cut.Reading.cuts_eq_separators .plain 0 0 t)
  refine ⟨hcuts, (Argument.cuts_split t).trans hcuts, ?_, ?_⟩
  · rw [← hcuts, Cut.cuts_eq]
    exact Cut.Reading.charAt_of_mem_cuts _ [] t
  · intro p hp
    have hcovers := Argument.covers_split t p hp
    exact ⟨hcovers, hcovers.start_le, hcovers.boundary_start, hcovers.boundary_stop⟩

/-- An escape takes a whole character along, `/*/` is no comment with an end, and nothing in a
string or between parentheses counts. -/
example : Cut.separators .plain 0 0 "\\é,\";\",(;)),/*/,*/;'\\',".toList =
    [⟨3, .comma⟩, ⟨7, .comma⟩, ⟨12, .comma⟩, ⟨19, .semicolon⟩] := by decide

end CallLint
