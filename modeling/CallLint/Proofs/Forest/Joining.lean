import CallLint.Proofs.Forest.Reading
import Mathlib.Algebra.Ring.Parity

/-!
# Joining two texts

A text can go on behind its last node when every node of its top level has its end and no backslash
waits for a character. A divider that is not `/` then begins a node of its own, and what follows is
read as if it stood alone.

* `Forest.Stands.congr_head`: of the text behind it, a forest looks at the first character only.
* `Forest.Stands.before`: a finished forest stands in front of a text that nothing joins to it.
* `parse_append_divider`: reading two texts with a divider between them.
-/

namespace CallLint

open Text

/-! ## Backslashes at the end -/

/-- The number of backslashes at the end of a text. -/
def Text.trailingBackslashes (t : Text) : Nat := (t.reverse.takeWhile (· = '\\')).length

namespace Text

/-- Only what follows another character counts. -/
theorem trailingBackslashes_append_cons (s : Text) {c : Char} (hc : c ≠ '\\') (t : Text) :
    trailingBackslashes (s ++ c :: t) = trailingBackslashes t := by
  have hrev : (s ++ c :: t).reverse = t.reverse ++ c :: s.reverse := by simp
  rw [trailingBackslashes, trailingBackslashes, hrev, List.takeWhile_append]
  split
  next hall => simp [hc, hall]
  next => rfl

theorem trailingBackslashes_cons {c : Char} (hc : c ≠ '\\') (t : Text) :
    trailingBackslashes (c :: t) = trailingBackslashes t :=
  trailingBackslashes_append_cons [] hc t

theorem trailingBackslashes_replicate (n : Nat) :
    trailingBackslashes (List.replicate n '\\') = n := by
  simp [trailingBackslashes]

/-- A text is made of backslashes alone, or another character is in front of those at its end. -/
theorem eq_replicate_or_exists_cons (t : Text) :
    t = List.replicate t.length '\\' ∨ ∃ front c back, t = front ++ c :: back ∧ c ≠ '\\' := by
  by_cases hall : ∀ c ∈ t, c = '\\'
  · exact .inl (List.eq_replicate_of_mem hall)
  · obtain ⟨c, hc, hne⟩ : ∃ c ∈ t, c ≠ '\\' := by simpa using hall
    obtain ⟨front, back, rfl⟩ := List.append_of_mem hc
    exact .inr ⟨front, c, back, rfl, hne⟩

/-- A pair of backslashes in front does not change whether their number is even. -/
theorem even_trailingBackslashes_pair (t : Text) :
    Even (trailingBackslashes ('\\' :: '\\' :: t)) ↔ Even (trailingBackslashes t) := by
  rcases eq_replicate_or_exists_cons t with ht | ⟨front, c, back, rfl, hc⟩
  · have hpair : '\\' :: '\\' :: t = List.replicate (t.length + 2) '\\' := by
      rw [List.replicate_succ, List.replicate_succ, ← ht]
    have hlen := trailingBackslashes_replicate t.length
    rw [← ht] at hlen
    have htwo : Even 2 := ⟨1, rfl⟩
    rw [hpair, trailingBackslashes_replicate, hlen, Nat.even_add]
    exact iff_true_right htwo
  · have hpair := trailingBackslashes_append_cons ('\\' :: '\\' :: front) hc back
    rw [trailingBackslashes_append_cons front hc, ← hpair]
    rfl

/-- Whole units in front do not change whether the number of backslashes at the end is even. -/
theorem Units.even_trailingBackslashes {stop : Char → Bool} {s : Text} (h : Units stop s)
    (t : Text) : Even (trailingBackslashes (s ++ t)) ↔ Even (trailingBackslashes t) := by
  induction h with
  | nil => rfl
  | @escape c s _ ih =>
    by_cases hc : c = '\\'
    · subst hc
      rw [← ih]
      exact even_trailingBackslashes_pair (s ++ t)
    · rw [← ih]
      exact iff_of_eq (congrArg Even (trailingBackslashes_append_cons ['\\'] hc (s ++ t)))
  | @plain c s hc _ _ ih =>
    rw [← ih, List.cons_append, trailingBackslashes_cons hc]

/-- A text that breaks off in the middle of a unit ends in an odd number of backslashes. -/
theorem Breaks.not_even {stop : Char → Bool} {t : Text} (h : Breaks stop t) :
    ¬ Even (trailingBackslashes t) := by
  obtain ⟨u, hu, rfl⟩ := h
  rw [hu.even_trailingBackslashes]
  decide

end Text

/-! ## What a leaf sees of the text behind it -/

/-- Nothing joins the text to a node in front of it: it is empty, or begins with a character that
ends words and is neither white space nor `(`. -/
def Text.StandsApart (t : Text) : Prop :=
  ∀ c ∈ t.head?, endsWord c = true ∧ isBlank c = false ∧ c ≠ '('

theorem Text.standsApart_nil : StandsApart [] := by
  simp [StandsApart]

theorem Text.standsApart_divider {c : Char} (hc : isDivider c = true) (t : Text) :
    StandsApart (c :: t) := by
  intro d hd
  obtain rfl : c = d := by simpa using hd
  exact ⟨by simp [endsWord, hc], Token.isBlank_of_isDivider hc, Token.ne_of_class hc (by decide)⟩

theorem Text.standsApart_closing (t : Text) : StandsApart (')' :: t) := by
  intro d hd
  obtain rfl : ')' = d := by simpa using hd
  decide

namespace Leaf.Stands

variable {part : Leaf} {c : Char} {s t : Text}

/-- Behind a leaf nothing but the first character matters. -/
theorem congr_head (h : part.Stands (c :: t)) (t' : Text) : part.Stands (c :: t') := by
  cases part with
  | space u => exact h
  | word u =>
    obtain ⟨hne, ⟨hu, hstop⟩ | ⟨-, hnil⟩, hopen⟩ := h
    · exact ⟨hne, .inl ⟨hu, hstop⟩, hopen⟩
    · cases hnil
  | quoted mark body closed =>
    obtain ⟨hm, he⟩ := h
    cases closed with
    | true => exact ⟨hm, he⟩
    | false => cases he.1
  | comment body closed =>
    obtain ⟨hbody, hclosed⟩ := h
    refine ⟨hbody, fun hc => ?_⟩
    cases hclosed hc
  | divider mark => exact h
  | address name body closed =>
    obtain ⟨hname, hstarts, he⟩ := h
    cases closed with
    | true => exact ⟨hname, hstarts, he⟩
    | false => cases he.1

theorem congr_tail (h : part.Stands (s ++ c :: t)) (t' : Text) : part.Stands (s ++ c :: t') := by
  cases s with
  | nil => exact h.congr_head t'
  | cons d s => exact h.congr_head (s ++ c :: t')

/-- A leaf with its end stands in front of a text that stands apart, unless it is a word that a
backslash at its end would join to the text. -/
theorem before (h : part.Stands []) (hclosed : part.closed = true)
    (heven : Even (trailingBackslashes part.text)) (ht : StandsApart t) : part.Stands t := by
  cases t with
  | nil => exact h
  | cons c t =>
    obtain ⟨hends, hblank, hopen⟩ := ht c rfl
    cases part with
    | space u =>
      obtain ⟨hu, hb, -⟩ := h
      refine ⟨hu, hb, fun d hd => ?_⟩
      obtain rfl : c = d := by simpa using hd
      exact hblank
    | word u =>
      obtain ⟨hu, ⟨hunits, -⟩ | ⟨hbreaks, -⟩, -⟩ := h
      · refine ⟨hu, .inl ⟨hunits, fun d hd => ?_⟩, by simpa using hopen⟩
        obtain rfl : c = d := by simpa using hd
        exact hends
      · exact absurd heven hbreaks.not_even
    | quoted mark body closed =>
      obtain rfl : closed = true := hclosed
      exact h
    | comment body closed =>
      obtain rfl : closed = true := hclosed
      exact ⟨h.1, by simp⟩
    | divider mark =>
      have hstar : c ≠ '*' := Token.ne_of_class hends (by decide)
      exact ⟨h.1, fun _ => by simpa using hstar⟩
    | address name body closed =>
      obtain rfl : closed = true := hclosed
      exact h

/-- In front of another node, a leaf with its end adds no backslashes to those at the end. -/
theorem trailingBackslashes_append (h : part.Stands (c :: t)) (hclosed : part.closed = true) :
    trailingBackslashes (part.text ++ c :: t) = trailingBackslashes (c :: t) := by
  -- a word ends in front of a character that is no backslash, any other leaf ends in one itself
  have hlast : ∀ (u : Text) (d : Char), d ≠ '\\' →
      trailingBackslashes (u ++ [d] ++ c :: t) = trailingBackslashes (c :: t) := by
    intro u d hd
    rw [List.append_assoc, List.singleton_append, trailingBackslashes_append_cons u hd]
  have hne : ∀ d, endsWord d = true → d ≠ '\\' :=
    fun _ hd => Token.ne_of_class hd Token.endsWord_backslash
  cases part with
  | space u =>
    obtain ⟨hu, hb, -⟩ := h
    obtain ⟨front, d, rfl⟩ : ∃ front d, u = front ++ [d] :=
      ⟨u.dropLast, u.getLast hu, (List.dropLast_concat_getLast hu).symm⟩
    refine hlast front d (hne d ?_)
    simp [endsWord, hb d (by simp)]
  | word u =>
    obtain ⟨-, ⟨-, hstop⟩ | ⟨-, hnil⟩, -⟩ := h
    · have hc := hne c (hstop c rfl)
      rw [text, trailingBackslashes_append_cons u hc, trailingBackslashes_cons hc]
    · cases hnil
  | quoted mark body closed =>
    obtain rfl : closed = true := hclosed
    exact hlast (mark :: body) mark (hne mark (by simp [endsWord, h.1]))
  | comment body closed =>
    obtain rfl : closed = true := hclosed
    have htext : (Leaf.comment body true).text = '/' :: '*' :: body ++ ['*'] ++ ['/'] := by
      simp [text]
    rw [htext]
    exact hlast _ '/' (by decide)
  | divider mark => exact hlast [] mark (hne mark (by simp [endsWord, h.1]))
  | address name body closed =>
    obtain rfl : closed = true := hclosed
    have htext : (Leaf.address name body true).text = name ++ '(' :: body ++ [')'] := by
      simp [text]
    rw [htext]
    exact hlast _ ')' (by decide)

end Leaf.Stands

/-! ## Forests in a row -/

namespace Forest

/-- The nodes of one forest, followed by those of another. -/
def append : Forest → Forest → Forest
  | .nil, g => g
  | .leaf part rest, g => .leaf part (rest.append g)
  | .call name inside closed rest, g => .call name inside closed (rest.append g)

@[simp] theorem text_append (f g : Forest) : (f.append g).text = f.text ++ g.text := by
  induction f with
  | nil => rfl
  | leaf part rest ih => simp [append, ih]
  | call name inside closed rest _ ih => simp [append, ih]

@[simp] theorem calls_append (f g : Forest) : (f.append g).calls = f.calls ++ g.calls := by
  induction f with
  | nil => rfl
  | leaf part rest ih =>
    rw [append, calls_leaf, calls_leaf, ih]
    split
    · rfl
    · rfl
  | call name inside closed rest _ ih => simp [append, ih]

namespace Stands

variable {part : Leaf} {f g inside rest : Forest} {nested : Bool} {c : Char} {t name after : Text}

/-- Of the text behind it, a forest looks at the first character only. -/
theorem congr_head (h : f.Stands nested (c :: t)) (t' : Text) : f.Stands nested (c :: t') := by
  induction f generalizing nested c t t' with
  | nil => trivial
  | leaf part rest ih =>
    obtain ⟨hpart, hrest⟩ := h
    exact ⟨hpart.imp_left fun hs => hs.congr_tail t', ih hrest t'⟩
  | call name inside closed rest ihInside ih =>
    obtain ⟨⟨hname, hstarts⟩, hinside, hrest, hclosed⟩ := h
    cases closed with
    | true =>
      refine ⟨⟨hname, fun hn => ?_⟩, ihInside hinside _, ih hrest t', by simp⟩
      have hs := hstarts hn
      rw [if_pos rfl, List.singleton_append, Token.startsAddress_append_closing] at hs ⊢
      exact hs
    | false => cases (hclosed rfl).2

theorem eq_nil_of_text (h : f.Stands nested after) (ht : f.text = []) : f = .nil := by
  cases f with
  | nil => rfl
  | leaf part rest =>
    rw [text_leaf, List.append_eq_nil_iff] at ht
    exact absurd ht.1 h.leaf_ne_nil
  | call name inside closed rest => simp at ht

/-- Behind a leaf with its end, the rest of the text may go on with a text that stands apart. -/
theorem before_leaf (h : (Forest.leaf part rest).Stands nested []) (hclosed : part.closed = true)
    (heven : Even (trailingBackslashes (Forest.leaf part rest).text)) (ht : StandsApart t) :
    (part.Stands (rest.text ++ t) ∨ nested = false ∧ part = .word [')']) ∧
      Even (trailingBackslashes rest.text) := by
  obtain ⟨hpart, hrest⟩ := h
  rw [text_leaf] at heven
  cases hbehind : rest.text with
  | nil =>
    rw [hbehind, List.append_nil] at hpart heven
    exact ⟨hpart.imp_left fun hs => hs.before hclosed heven ht, by decide⟩
  | cons d u =>
    rw [List.append_nil, hbehind] at hpart
    rw [hbehind] at heven
    refine ⟨hpart.imp_left fun hs => hs.congr_head _, ?_⟩
    rcases hpart with hs | ⟨-, rfl⟩
    · rwa [hs.trailingBackslashes_append hclosed] at heven
    · rwa [Leaf.text, List.singleton_append, trailingBackslashes_cons (by decide)] at heven

/-- Behind a call with its end, the rest of the text may go on with any text. -/
theorem before_call (h : (Forest.call name inside true rest).Stands nested [])
    (heven : Even (trailingBackslashes (Forest.call name inside true rest).text)) (t : Text) :
    (Token.opening name).Stands (inside.text ++ ')' :: t) ∧ inside.Stands true (')' :: t) ∧
      Even (trailingBackslashes rest.text) := by
  obtain ⟨⟨hname, hstarts⟩, hinside, -⟩ := h
  refine ⟨⟨hname, fun hn => ?_⟩, hinside.congr_head t, ?_⟩
  · have hs := hstarts hn
    rw [if_pos rfl, List.singleton_append, Token.startsAddress_append_closing] at hs
    rwa [Token.startsAddress_append_closing]
  · have htext : text (.call name inside true rest) =
        name ++ '(' :: inside.text ++ ')' :: rest.text := by simp
    rwa [htext, trailingBackslashes_append_cons _ (by decide)] at heven

/-- A forest whose top level has all its ends stands in front of a text that stands apart, unless a
backslash at its end waits for a character. -/
theorem before (h : f.Stands nested []) (hclosed : ∀ n ∈ f.nodes, n.closed = true)
    (heven : Even (trailingBackslashes f.text)) (ht : StandsApart t) : f.Stands nested t := by
  induction f with
  | nil => trivial
  | leaf part rest ih =>
    obtain ⟨hpart, hback⟩ := h.before_leaf (hclosed _ List.mem_cons_self) heven ht
    exact ⟨hpart, ih h.2 (fun n hn => hclosed n (List.mem_cons_of_mem _ hn)) hback⟩
  | call name inside closed rest _ ih =>
    obtain rfl : closed = true := hclosed _ List.mem_cons_self
    obtain ⟨hname, hinside, hback⟩ := h.before_call heven (rest.text ++ t)
    exact ⟨hname, hinside,
      ih h.2.2.1 (fun n hn => hclosed n (List.mem_cons_of_mem _ hn)) hback, by simp⟩

/-- Forests in a row stand if each of them does. -/
theorem append (hf : f.Stands nested (g.text ++ after)) (hg : g.Stands nested after)
    (hne : g.text ≠ []) : (f.append g).Stands nested after := by
  induction f with
  | nil => exact hg
  | leaf part rest ih =>
    obtain ⟨hpart, hrest⟩ := hf
    refine ⟨?_, ih hrest⟩
    rwa [text_append, List.append_assoc]
  | call name inside closed rest _ ih =>
    obtain ⟨hname, hinside, hrest, hclosed⟩ := hf
    rw [← List.append_assoc rest.text, ← text_append] at hname hinside
    refine ⟨hname, hinside, ih hrest, fun hc => ?_⟩
    exact absurd (List.append_eq_nil_iff.1 (hclosed hc).2).1 hne

end Stands

/-- Reading two texts with a divider between them, when the first one is finished. -/
theorem parse_append_divider {a : Text} {d : Char} (hd : isDivider d = true) (hslash : d ≠ '/')
    (hclosed : ∀ n ∈ (parse a).nodes, n.closed = true) (ha : Even (trailingBackslashes a))
    (b : Text) : parse (a ++ d :: b) = (parse a).append (.leaf (.divider d) (parse b)) := by
  have heven : Even (trailingBackslashes (parse a).text) := by rwa [text_parse]
  have hfront : (parse a).Stands false (d :: b) :=
    (stands_parse a).before hclosed heven (standsApart_divider hd b)
  have hback : (Forest.leaf (.divider d) (parse b)).Stands false [] :=
    ⟨.inl ⟨hd, fun h => absurd h hslash⟩, stands_parse b⟩
  have htext : (Forest.leaf (.divider d) (parse b)).text = d :: b := by
    rw [text_leaf, text_parse]
    rfl
  rw [parse_eq_iff]
  refine ⟨by rw [text_append, text_parse, htext], Stands.append ?_ hback (by simp [htext])⟩
  rwa [htext, List.append_nil]

end Forest

end CallLint
