import CallLint.Proofs.Argument.Agreement
import CallLint.Proofs.Forest.Address

/-!
# Addresses in arguments

The body of an address is seen when the text around it is cut into arguments: a quote in it opens a
string, and `/*` a comment, which may hide all that follows. A body is inert when there is nothing
of this kind in it. To exchange one inert body for another changes nothing but the texts in which it
stands, even if the text around the address is in a string or comment that another address began.

* `segments_exchanged`: both texts have the same cuts.
* `ofPiece_exchanged`: both arguments are blank or not, and named or not, together.
* `split_exchanged`: the arguments of both texts, one by one.
-/

namespace CallLint

open Text Cut Cut.Reading

/-- The text is a body of an address in which no string, parenthesis or comment begins, and no
comment ends. -/
structure Text.Inert (t : Text) : Prop where
  isBody : IsAddressBody t
  /-- Outside escapes, there is no quote, no `(` and no `/*`. -/
  quiet : quiet t = true
  notEnd : ¬ ['*', '/'] <:+: t

variable {name body body' t t' : Text}

namespace Cut.Reading

/-! ## Cutting -/

/-- A letter only ends an escape. -/
theorem step_isAlpha {r : Reading} (hr : r.Sound) {c : Char} (hc : c.isAlpha = true)
    (ahead : Option Char) : r.step c ahead = (⟨r.context, r.depth, false⟩, none) := by
  have hne : ∀ d : Char, d.isAlpha = false → c ≠ d := fun _ => Token.ne_of_class hc
  have hquote : isQuote c = false := by
    refine Bool.eq_false_iff.2 fun hq => ?_
    rcases Token.isQuote_iff.1 hq with rfl | rfl
    all_goals exact absurd hc (by decide)
  obtain ⟨context, depth, taken⟩ := r
  unfold step
  cases taken with
  | true => rfl
  | false =>
    cases context with
    | comment => simp [hne '*' (by decide)]
    | quoted mark =>
      have hmark : c ≠ mark := by
        rintro rfl
        simp [hr c rfl] at hquote
      simp [hne '\\' (by decide), hmark]
    | plain =>
      simp [hquote, hne '\\' (by decide), hne '/' (by decide), hne '(' (by decide),
        hne ')' (by decide), hne ',' (by decide), hne ';' (by decide)]

theorem passes_letters {r : Reading} (hr : r.Sound) (hne : t ≠ [])
    (ht : ∀ c ∈ t, c.isAlpha = true) (after : Text) :
    Passes r t after ⟨r.context, r.depth, false⟩ := by
  induction t generalizing r with
  | nil => exact absurd rfl hne
  | cons c t ih =>
    refine .cons (step_isAlpha hr (ht c List.mem_cons_self) _) ?_
    cases t with
    | nil => exact .nil
    | cons d t =>
      have hsound : (⟨r.context, r.depth, false⟩ : Reading).Sound := hr
      exact ih hsound (by simp) fun e he => ht e (List.mem_cons_of_mem _ he)

/-- An inert body is passed within the parentheses of the address, wherever they stand. -/
theorem passes_of_inert {r : Reading} (hr : r.Sound) (htaken : r.taken = false)
    (hdepth : r.context = .plain → r.depth ≠ 0) (ht : t.Inert) {after : Text}
    (hstar : after.head? ≠ some '*') (hslash : after.head? ≠ some '/') : Passes r t after r := by
  obtain ⟨context, depth, taken⟩ := r
  obtain rfl : taken = false := htaken
  obtain ⟨⟨hunits, -⟩, hquiet, hend⟩ := ht
  cases context with
  | plain => exact passes_of_quiet hunits hquiet (hdepth rfl) hstar
  | comment => exact passes_comment hend hslash
  | quoted mark =>
    -- only the quote of the string would end it, and a quote stands in the body within escapes only
    have hmark := hr mark rfl
    clear hend
    induction hunits with
    | nil => exact .nil
    | escape c _ ih => exact Passes.escape (by simp) c (ih hquiet)
    | @plain c t hc _ _ ih =>
      obtain ⟨hquote, -, -, ht⟩ := (quiet_cons hc t).1 hquiet
      refine .cons (step_quoted _ hc (decide_eq_false ?_)) (ih ht)
      rintro rfl
      simp [hmark] at hquote

/-- Behind a `(` a string or comment goes on, or a parenthesis is open. -/
theorem exists_step_open {r : Reading} (hr : r.Sound) (htaken : r.taken = false) :
    ∃ r' : Reading, r'.Sound ∧ r'.taken = false ∧ (r'.context = .plain → r'.depth ≠ 0) ∧
      ∀ ahead, r.step '(' ahead = (r', none) := by
  obtain ⟨context, depth, taken⟩ := r
  obtain rfl : taken = false := htaken
  cases context with
  | plain =>
    exact ⟨plain (depth + 1), sound_plain _, rfl, fun _ => Nat.succ_ne_zero depth, fun _ => rfl⟩
  | comment => exact ⟨_, hr, rfl, by simp, fun _ => rfl⟩
  | quoted mark =>
    have hmark : '(' ≠ mark := by
      rintro rfl
      exact absurd (hr '(' rfl) (by decide)
    exact ⟨_, hr, rfl, by simp, fun _ => by simp [step, hmark]⟩

theorem exists_step_close {r : Reading} (hr : r.Sound) (htaken : r.taken = false) :
    ∃ r' : Reading, ∀ ahead, r.step ')' ahead = (r', none) := by
  obtain ⟨context, depth, taken⟩ := r
  obtain rfl : taken = false := htaken
  cases context with
  | plain => exact ⟨plain (depth - 1), fun _ => rfl⟩
  | comment => exact ⟨_, fun _ => rfl⟩
  | quoted mark =>
    have hmark : ')' ≠ mark := by
      rintro rfl
      exact absurd (hr ')' rfl) (by decide)
    exact ⟨⟨.quoted mark, depth, false⟩, fun _ => by simp [step, hmark]⟩

/-- The scan goes over an address with an inert body to where it goes over any other. -/
theorem exists_passes_address {r : Reading} (hr : r.Sound)
    (hname : Token.isAddressName name = true) (after : Text) :
    ∃ r', ∀ body : Text, body.Inert → Passes r (address name body) after r' := by
  have hsound : (⟨r.context, r.depth, false⟩ : Reading).Sound := hr
  obtain ⟨r', hr', htaken, hdepth, hopen⟩ := exists_step_open hsound rfl
  obtain ⟨r'', hclose⟩ := exists_step_close hr' htaken
  refine ⟨r'', fun body hbody => ?_⟩
  have hletters := passes_letters hr (ne_nil_of_isAddressName hname)
    (Token.isAlpha_of_isAddressName hname) ('(' :: (body ++ [')']) ++ after)
  have hinside : Passes r' body ([')'] ++ after) r' :=
    passes_of_inert hr' htaken hdepth hbody (by simp) (by simp)
  exact hletters.append (.cons (hopen _) (hinside.append (.cons (hclose _) .nil)))

/-- What is put in front of the first of the segments may differ, as long as they stay alike. -/
theorem forall₂_modifyHead {α : Type} {R : α → α → Prop} {l l' : List α} {f g : α → α}
    (h : List.Forall₂ R l l') (hfg : ∀ a b, R a b → R (f a) (g b)) :
    List.Forall₂ R (l.modifyHead f) (l'.modifyHead g) := by
  cases h with
  | nil => exact .nil
  | cons hab hl => exact .cons (hfg _ _ hab) hl

/-- The segments of both texts are the same, but for the body of the address in one of them. -/
theorem segments_exchanged {r : Reading} (hr : r.Sound) (hname : Token.isAddressName name = true)
    (hbody : body.Inert) (hbody' : body'.Inert) (h : Exchanged name body body' t t') :
    List.Forall₂ (fun s s' => s'.2 = s.2 ∧ (s'.1 = s.1 ∨ Exchanged name body body' s.1 s'.1))
      (r.segments t) (r.segments t') := by
  obtain ⟨x, y, rfl, rfl⟩ := h
  -- from the front of the text to the address, which the scan goes over in one go
  induction x generalizing r with
  | nil =>
    obtain ⟨r', hpasses⟩ := exists_passes_address hr hname y
    rw [List.nil_append, List.nil_append, (hpasses body hbody).segments,
      (hpasses body' hbody').segments]
    obtain ⟨front, separator, segments, back, hsegments, -⟩ := exists_segments r' y
    rw [hsegments]
    exact .cons ⟨rfl, .inr ⟨[], front, rfl, rfl⟩⟩ (List.forall₂_same.2 fun _ _ => ⟨rfl, .inl rfl⟩)
  | cons c x ih =>
    have hahead : (x ++ (address name body' ++ y)).head? =
        (x ++ (address name body ++ y)).head? := by
      obtain ⟨d, letters, rfl, -⟩ := exists_name hname
      cases x <;> rfl
    have hrest := ih (sound_step hr c (x ++ (address name body ++ y)).head?)
    rw [List.cons_append, List.cons_append, segments, segments, hahead]
    cases (r.step c (x ++ (address name body ++ y)).head?).2 with
    | none =>
      refine forall₂_modifyHead hrest fun s s' hs => ⟨hs.1, ?_⟩
      exact hs.2.imp (congrArg (c :: ·)) fun he => he.append_left [c]
    | some separator => exact .cons ⟨rfl, .inl rfl⟩ hrest

end Cut.Reading

/-! ## Blank and named arguments -/

namespace Key

/-- Only a backslash waits for the character behind it. -/
theorem Place.eq_of_next_eq_escaped {p : Place} {c : Char} (h : p.next c = some .escaped) :
    c = '\\' := by
  have hbegin : begin c = some .escaped → c = '\\' := by
    intro hb
    by_contra hc
    rw [begin, if_neg hc] at hb
    split at hb
    · cases hb
    · cases hb
  cases p with
  | unit => exact hbegin h
  | start =>
    rw [next] at h
    split at h
    · cases h
    · exact hbegin h
  | escaped =>
    rw [next] at h
    split at h
    · cases h
    · split at h
      · cases h
      · cases h
  | digits room =>
    rw [next] at h
    split at h
    · cases h
    · split at h
      · cases h
      · exact hbegin h

/-- The reading of an identifier stops in front of a `(`, unless a backslash takes it along. -/
theorem Place.next_open {p : Place} (hp : p ≠ .escaped) : p.next '(' = none := by
  cases p with
  | escaped => exact absurd rfl hp
  | _ => rfl

theorem Place.exists_run (p : Place) (s : Text) {c : Char} (hc : c ≠ '\\') :
    ∃ word q rest, ∀ t, p.run (s ++ c :: '(' :: t) = (word, q, rest ++ '(' :: t) := by
  induction s generalizing p with
  | nil =>
    cases hq : p.next c with
    | none => exact ⟨[], p, [c], fun t => by simp [run, hq]⟩
    | some q =>
      have hopen : q.next '(' = none := by
        refine next_open ?_
        rintro rfl
        exact hc (eq_of_next_eq_escaped hq)
      exact ⟨[c], q, [], fun t => by simp [run, hq, hopen]⟩
  | cons d s ih =>
    cases hq : p.next d with
    | none => exact ⟨[], p, d :: s ++ [c], fun t => by simp [run, hq]⟩
    | some q =>
      obtain ⟨word, place, rest, hrun⟩ := ih q
      exact ⟨d :: word, place, rest, fun t => by simp [run, hq, hrun]⟩

theorem isSome_value?_congr (s t t' : Text) :
    (value? (s ++ '(' :: t)).isSome = (value? (s ++ '(' :: t')).isSome := by
  have hopen : Text.isBlank '(' = false := by decide
  rw [value?, value?, trimStart_append_cons hopen, trimStart_append_cons hopen]
  rcases trimStart s with _ | ⟨c, _ | ⟨d, u⟩⟩
  · rfl
  · by_cases hcolon : c = ':'
    · simp [hcolon]
    · by_cases hequals : c = '='
      · simp [hequals]
      · simp [hcolon, hequals]
  · by_cases hcolon : c = ':'
    · simp [hcolon]
    · by_cases hequals : c = '='
      · by_cases hdouble : d = '='
        · simp [hequals, hdouble]
        · simp [hequals, hdouble]
      · simp [hcolon, hequals]

theorem exists_sigil (s : Text) {c : Char} (hc : c.isAlpha = true) :
    ∃ front rest, ∀ t, sigil (s ++ c :: t) = (front, rest ++ c :: t) := by
  cases s with
  | nil =>
    refine ⟨[], [], fun t => ?_⟩
    have hne : ∀ d : Char, d.isAlpha = false → c ≠ d := fun _ => Token.ne_of_class hc
    simp [sigil, hne '$' (by decide), hne '@' (by decide)]
  | cons d s =>
    by_cases hdollar : d = '$'
    · exact ⟨['$'], s, fun t => by simp [sigil, hdollar]⟩
    · by_cases hat : d = '@'
      · exact ⟨['@'], s, fun t => by simp [sigil, hat]⟩
      · exact ⟨[], d :: s, fun t => by simp [sigil, hdollar, hat]⟩

/-- What is behind the `(` of a call does not matter to whether there is a key. -/
theorem isSome_read?_congr (s : Text) {c : Char} (hc : c.isAlpha = true) (t t' : Text) :
    (read? (s ++ c :: '(' :: t)).isSome = (read? (s ++ c :: '(' :: t')).isSome := by
  have hslash : c ≠ '\\' := by
    rintro rfl
    exact absurd hc (by decide)
  obtain ⟨front, back, hsigil⟩ := exists_sigil s hc
  obtain ⟨word, place, rest, hrun⟩ := Place.start.exists_run back hslash
  unfold read? identifier?
  rw [hsigil, hsigil, hrun, hrun]
  by_cases hfinal : place.final = true
  · simpa [hfinal] using isSome_value?_congr rest t t'
  · simp [hfinal]

/-- The body of an address does not matter to whether there is a key. -/
theorem isSome_read?_exchanged (hname : Token.isAddressName name = true)
    (h : Exchanged name body body' t t') : (read? t').isSome = (read? t).isSome := by
  obtain ⟨x, y, rfl, rfl⟩ := h
  have hne := ne_nil_of_isAddressName hname
  have hlast := Token.isAlpha_of_isAddressName hname _ (List.getLast_mem hne)
  have htext : ∀ b, x ++ (address name b ++ y) =
      (x ++ name.dropLast) ++ name.getLast hne :: '(' :: (b ++ ')' :: y) := by
    intro b
    calc
      x ++ (address name b ++ y) = x ++ (name ++ '(' :: (b ++ ')' :: y)) := by simp [address]
      _ = x ++ (name.dropLast ++ [name.getLast hne] ++ '(' :: (b ++ ')' :: y)) := by
        rw [List.dropLast_append_getLast]
      _ = _ := by simp
  rw [htext, htext]
  exact isSome_read?_congr _ hlast _ _

end Key

namespace Argument

/-- Either comments are dropped up to some place in front of the letter, or the letter is in one. -/
theorem dropComments_append_letter (inside : Bool) (s : Text) :
    (∃ rest, ∀ (c : Char) (t : Text), c.isAlpha = true →
      dropComments inside (s ++ c :: t) = rest ++ c :: t) ∨
    ∀ (c : Char) (t : Text), c.isAlpha = true →
      dropComments inside (s ++ c :: t) = dropComments true (c :: t) := by
  -- a letter is no part of the marks that begin and end comments
  have hhead : ∀ (s : Text) {c d : Char} (t : Text), c.isAlpha = true → d.isAlpha = false →
      s.head? ≠ some d → (s ++ c :: t).head? ≠ some d := by
    intro s c d t hc hd hs
    cases s with
    | nil =>
      rintro h
      obtain rfl : c = d := by simpa using h
      simp [hc] at hd
    | cons e s => exact hs
  fun_induction dropComments inside s with
  | case1 inside =>
    cases inside with
    | false =>
      refine .inl ⟨[], fun c t hc => dropComments_cons (Token.isBlank_of_isAlpha hc) ?_⟩
      rintro rfl
      exact absurd hc (by decide)
    | true => exact .inr fun _ _ _ => rfl
  | case2 t ih => exact ih
  | case3 inside t hin =>
    obtain rfl : inside = false := by simpa using hin
    exact .inl ⟨'*' :: '/' :: t, fun _ _ _ => rfl⟩
  | case4 t ih => exact ih
  | case5 inside t hin ih =>
    obtain rfl : inside = false := by simpa using hin
    exact ih
  | case6 c t hend _ ih =>
    have hdrop : ∀ (d : Char) (u : Text), d.isAlpha = true →
        dropComments true (c :: t ++ d :: u) = dropComments true (t ++ d :: u) := by
      intro d u hd
      refine dropComments_true_cons fun hc => hhead t u hd (by decide) fun hs => ?_
      obtain ⟨w, rfl⟩ := List.head?_eq_some_iff.1 hs
      exact hend w hc rfl
    rcases ih with ⟨rest, h⟩ | h
    · exact .inl ⟨rest, fun d u hd => (hdrop d u hd).trans (h d u hd)⟩
    · exact .inr fun d u hd => (hdrop d u hd).trans (h d u hd)
  | case7 inside c t _ _ hin hc ih =>
    obtain rfl : inside = false := by simpa using hin
    simp only [List.cons_append, dropComments_blank hc]
    exact ih
  | case8 inside c t _ hopen hin hc =>
    obtain rfl : inside = false := by simpa using hin
    refine .inl ⟨c :: t, fun d u hd => dropComments_cons (by simpa using hc) fun hslash => ?_⟩
    refine hhead t u hd (by decide) fun hs => ?_
    obtain ⟨w, rfl⟩ := List.head?_eq_some_iff.1 hs
    exact hopen w hslash rfl

/-- Within a comment, an address with an inert body is dropped. -/
theorem dropComments_address (hname : Token.isAddressName name = true) (hbody : body.Inert)
    (t : Text) : dropComments true (address name body ++ t) = dropComments true (')' :: t) := by
  have hletters : ¬ ['*', '/'] <:+: name := by
    intro hin
    have hstar := Token.isAlpha_of_isAddressName hname '*' (hin.subset List.mem_cons_self)
    exact absurd hstar (by decide)
  have htext : address name body ++ t = name ++ '(' :: (body ++ ')' :: t) := by simp [address]
  rw [htext, dropComments_true_append hletters (by simp), dropComments_true_cons (by simp),
    dropComments_true_append hbody.notEnd (by simp)]

/-- The two arguments are alike in all that is looked at, and their texts are the same but for the
body of one address. -/
structure Exchanged (name body body' : Text) (a a' : Argument) : Prop where
  isBlank : a'.isBlank = a.isBlank
  isNamed : a'.isNamed = a.isNamed
  trim : trim a'.raw = trim a.raw ∨ Text.Exchanged name body body' (trim a.raw) (trim a'.raw)

theorem trim_exchanged (hname : Token.isAddressName name = true)
    (h : Text.Exchanged name body body' t t') :
    Text.Exchanged name body body' (Text.trim t) (Text.trim t') := by
  obtain ⟨x, y, rfl, rfl⟩ := h
  obtain ⟨c, letters, hletters, hc⟩ := exists_name hname
  have htrim : ∀ b, Text.trim (x ++ (address name b ++ y)) =
      trimStart x ++ (address name b ++ trimEnd y) := by
    intro b
    have hstart := trimStart_append_cons (Token.isBlank_of_isAlpha hc) x
      (letters ++ '(' :: (b ++ ')' :: y))
    have hend := trimEnd_append_cons (c := ')') (by decide)
      (trimStart x ++ c :: letters ++ '(' :: b) y
    simp only [Text.trim, address, hletters, List.cons_append, List.append_assoc, List.nil_append,
      hstart] at hend ⊢
    exact hend
  exact ⟨trimStart x, trimEnd y, htrim body, htrim body'⟩

theorem isNamed_ofPiece (raw : Text) (separator : Option Separator) :
    (ofPiece raw separator).isNamed = (Key.read? (dropComments false (Text.trim raw))).isSome := by
  rw [ofPiece]
  cases Key.read? (dropComments false (Text.trim raw)) with
  | none => rfl
  | some p => rfl

section

variable (hname : Token.isAddressName name = true) (hbody : body.Inert) (hbody' : body'.Inert)
include hname hbody hbody'

/-- Behind the comments, both texts are the same but for the body of the address. -/
theorem dropComments_exchanged (h : Text.Exchanged name body body' t t') (inside : Bool) :
    dropComments inside t' = dropComments inside t ∨
      Text.Exchanged name body body' (dropComments inside t) (dropComments inside t') := by
  obtain ⟨x, y, rfl, rfl⟩ := h
  obtain ⟨c, letters, hletters, hc⟩ := exists_name hname
  have haddress : ∀ b, address name b ++ y = c :: (letters ++ '(' :: (b ++ ')' :: y)) := by
    simp [address, hletters]
  -- either the address is left with what is in front of it, or it is dropped within a comment
  rcases dropComments_append_letter inside x with ⟨rest, hdrop⟩ | hdrop
  · right
    refine ⟨rest, y, ?_, ?_⟩
    · rw [haddress, hdrop _ _ hc]
    · rw [haddress, hdrop _ _ hc]
  · left
    rw [haddress, haddress, hdrop _ _ hc, hdrop _ _ hc, ← haddress, ← haddress,
      dropComments_address hname hbody, dropComments_address hname hbody']

/-- Both texts make arguments that are blank together and named together. -/
theorem ofPiece_exchanged (h : Text.Exchanged name body body' t t')
    (separator : Option Separator) :
    Exchanged name body body' (ofPiece t separator) (ofPiece t' separator) := by
  have htrim := trim_exchanged hname h
  refine ⟨?_, ?_, .inr (by rwa [raw_ofPiece, raw_ofPiece])⟩
  · rw [Bool.eq_iff_iff, isBlank_ofPiece_iff, isBlank_ofPiece_iff]
    rcases dropComments_exchanged hname hbody hbody' h false with heq | ⟨x, y, hx, hx'⟩
    · rw [heq]
    · rw [hx, hx']
      simp [address]
  · rw [isNamed_ofPiece, isNamed_ofPiece]
    rcases dropComments_exchanged hname hbody hbody' htrim false with heq | hbehind
    · rw [heq]
    · exact Key.isSome_read?_exchanged hname hbehind

/-- The arguments of both texts, one by one. -/
theorem split_exchanged (h : Text.Exchanged name body body' t t') :
    List.Forall₂ (Exchanged name body body') (split t) (split t') := by
  have hseen : ¬ (∀ c ∈ t, Text.isBlank c = true) ∧ ¬ ∀ c ∈ t', Text.isBlank c = true := by
    obtain ⟨x, y, rfl, rfl⟩ := h
    have hopen : ¬ Text.isBlank '(' = true := by decide
    exact ⟨fun hall => hopen (hall '(' (by simp [address])),
      fun hall => hopen (hall '(' (by simp [address]))⟩
  rw [split_eq_ofText hseen.1, split_eq_ofText hseen.2, ofText, ofText, List.forall₂_map_left_iff,
    List.forall₂_map_right_iff]
  refine (segments_exchanged (sound_plain 0) hname hbody hbody' h).imp ?_
  rintro ⟨s, separator⟩ ⟨s', separator'⟩ ⟨rfl, rfl | hs⟩
  · exact ⟨rfl, rfl, .inl rfl⟩
  · exact ofPiece_exchanged hname hbody hbody' hs _

end

end Argument

end CallLint
