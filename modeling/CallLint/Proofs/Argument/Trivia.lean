import CallLint.Proofs.Argument.Joining

/-!
# What stands before an argument

White space and comments in front of an argument do not belong to it: the scan for separators goes
over them, and they are dropped from the piece. So they can be written there, or left out, and with
a separator behind them they are an argument that is blank.

* `Trivia`: white space and comments, one after the other.
* `dropComments_eq_nil_iff`: what makes an argument blank.
* `Reading.passes_trivia`: the scan goes over white space and comments.
* `Cut.exists_neutral_of_mem_cuts`: the text in front of a cut is neutral.
* `trivia_invisible`: what this says of the arguments of a text.
-/

namespace CallLint

open Text

/-- White space and comments with their ends. -/
inductive Text.Trivia : Text → Prop
  | nil : Trivia []
  | blank {c : Char} {t : Text} (hc : isBlank c = true) (ht : Trivia t) : Trivia (c :: t)
  | comment {body t : Text} (hbody : ¬ ['*', '/'] <:+: body) (ht : Trivia t) :
      Trivia ('/' :: '*' :: (body ++ '*' :: '/' :: t))

/-- White space and comments, and then a comment without its end. -/
def Text.TriviaOpen (t : Text) : Prop :=
  ∃ front body, t = front ++ '/' :: '*' :: body ∧ Trivia front ∧ ¬ ['*', '/'] <:+: body

namespace Argument

variable {t w : Text}

/-! ## Dropping white space and comments -/

theorem dropComments_trivia (h : Trivia w) (t : Text) :
    dropComments false (w ++ t) = dropComments false t := by
  induction h with
  | nil => rfl
  | blank hc _ ih => rw [List.cons_append, dropComments_blank hc, ih]
  | @comment body u hbody _ ih =>
    have hopen : dropComments false ('/' :: '*' :: (body ++ '*' :: '/' :: u) ++ t) =
        dropComments true (body ++ '*' :: '/' :: (u ++ t)) := by
      simp [dropComments]
    rw [hopen, dropComments_closed hbody, ih]

/-- A text of which nothing is left is made of white space and comments. -/
theorem trivia_of_dropComments (h : dropComments false t = []) : Trivia t ∨ TriviaOpen t := by
  induction hlen : t.length using Nat.strongRecOn generalizing t with
  | ind n ih =>
    cases t with
    | nil => exact .inl .nil
    | cons c t =>
      rw [List.length_cons] at hlen
      by_cases hblank : Text.isBlank c = true
      · rw [dropComments_blank hblank] at h
        rcases ih t.length (by omega) h rfl with ht | ⟨front, body, rfl, hfront, hbody⟩
        · exact .inl (.blank hblank ht)
        · exact .inr ⟨c :: front, body, rfl, .blank hblank hfront, hbody⟩
      · by_cases hstar : c = '/' ∧ t.head? = some '*'
        · obtain ⟨rfl, ht⟩ := hstar
          obtain ⟨u, rfl⟩ := List.head?_eq_some_iff.1 ht
          have hinside : dropComments true u = [] := by simpa [dropComments] using h
          have hbody := Token.not_infix_readCommentBody u
          have htext := Token.readCommentBody_append u
          generalize Token.readCommentBody u = found at hbody htext
          obtain ⟨body, _ | rest⟩ := found
          · obtain rfl : body = u := by simpa using htext
            exact .inr ⟨[], body, rfl, .nil, hbody⟩
          · obtain rfl : body ++ '*' :: '/' :: rest = u := htext
            rw [dropComments_closed hbody] at hinside
            have hlt : rest.length < n := by
              simp at hlen
              omega
            rcases ih rest.length hlt hinside rfl with hrest | ⟨front, body', rfl, hfront, hbody'⟩
            · exact .inl (.comment hbody hrest)
            · exact .inr ⟨'/' :: '*' :: (body ++ '*' :: '/' :: front), body', by simp,
                .comment hbody hfront, hbody'⟩
        · rw [dropComments_cons (by simpa using hblank) fun hc hhead => hstar ⟨hc, hhead⟩] at h
          cases h

/-- Nothing is left of a text that is made of white space and comments, the last of which may lack
its end. -/
theorem dropComments_eq_nil_iff : dropComments false t = [] ↔ Trivia t ∨ TriviaOpen t := by
  refine ⟨trivia_of_dropComments, ?_⟩
  rintro (ht | ⟨front, body, rfl, hfront, hbody⟩)
  · have hdrop := dropComments_trivia ht []
    rwa [List.append_nil] at hdrop
  · rw [dropComments_trivia hfront]
    exact dropComments_open hbody

/-- At the start of a text, trimming does what dropping comments does anyway. -/
theorem dropComments_trim_eq (t : Text) :
    dropComments false (trim t) = dropComments false (trimEnd t) := by
  obtain ⟨front, ht, hfront⟩ := exists_trimStart t
  cases hstart : trimStart t with
  | nil =>
    have hblank := trimStart_eq_nil_iff.1 hstart
    rw [trim_eq_nil_iff.2 hblank, trimEnd_eq_nil_iff.2 hblank]
  | cons c u =>
    have hc : Text.isBlank c = false := isBlank_head_trimStart t c (by rw [hstart]; rfl)
    have hback : trimEnd (c :: u) = c :: trimEnd u := trimEnd_append_cons hc [] u
    rw [trim, hstart, ht, hstart, trimEnd_append_cons hc, dropComments_blanks hfront, hback]

/-- White space and comments in front of a piece are dropped, where something is left. -/
theorem dropComments_trim_trivia (hw : Trivia w) (h : dropComments false t ≠ []) :
    dropComments false (trim (w ++ t)) = dropComments false (trim t) := by
  obtain ⟨front, ht, -⟩ := exists_trimStart t
  cases hstart : trimStart t with
  | nil => exact absurd (dropComments_of_blanks (trimStart_eq_nil_iff.1 hstart) false) h
  | cons c u =>
    have hc : Text.isBlank c = false := isBlank_head_trimStart t c (by rw [hstart]; rfl)
    rw [dropComments_trim_eq, dropComments_trim_eq, ht, hstart, ← List.append_assoc,
      trimEnd_append_cons hc, trimEnd_append_cons hc, List.append_assoc, dropComments_trivia hw]

end Argument

/-! ## The scan over white space and comments -/

namespace Cut.Reading

variable {w : Text}

theorem passes_trivia (h : Trivia w) (after : Text) :
    Passes (plain 0) w after (plain 0) := by
  induction h with
  | nil => exact .nil
  | blank hc _ ih => exact .cons (step_of_isBlank hc) ih
  | @comment body t hbody _ ih =>
    have hfront := (passes_closed_comment hbody).append ih
    simpa using hfront

end Cut.Reading

open Cut Cut.Reading

/-- Behind a cut, the text in front of it is neutral up to its separator. -/
theorem Cut.exists_neutral_of_mem_cuts {front back : Text} {cut : Cut}
    (hcut : cut ∈ cuts (front ++ back)) (hfront : byteLength front = cut.offset + 1) :
    ∃ before, front = before ++ [cut.separator.char] ∧ Neutral before := by
  rw [cuts_eq] at hcut
  obtain ⟨before, after, htext, hoffset, hfinish⟩ := finish_of_mem_cuts (plain 0) 0 _ cut hcut
  refine ⟨before, ?_, ?_⟩
  · have hlen : byteLength front = byteLength (before ++ [cut.separator.char]) := by
      rw [byteLength_append, byteLength_cons, byteLength_nil, Separator.utf8Size_char]
      omega
    have hsplit := splitBytes_append front back
    have hend : before ++ cut.separator.char :: after =
        (before ++ [cut.separator.char]) ++ after := by simp
    rw [htext, hlen, hend, splitBytes_append] at hsplit
    exact (congrArg Prod.fst hsplit).symm
  · have hscan := congrArg Prod.snd (scan_utf8 (sound_plain 0) 0 before)
    rw [hfinish] at hscan
    exact hscan

namespace Argument

variable {t w front back : Text}

/-- What the arguments say: key, value and separator of each that is not blank. -/
def shown (arguments : List Argument) : List (Option Text × Text × Option Separator) :=
  (arguments.filter fun a => !a.isBlank).map fun a => (a.key, a.value, a.separator)

theorem shown_append (as bs : List Argument) : shown (as ++ bs) = shown as ++ shown bs := by
  simp [shown]

theorem shown_cons_of_isBlank {a : Argument} (h : a.isBlank = true) (as : List Argument) :
    shown (a :: as) = shown as := by
  simp [shown, h]

theorem shown_congr {a b : Argument} (hkey : a.key = b.key) (hvalue : a.value = b.value)
    (hseparator : a.separator = b.separator) (as : List Argument) :
    shown (a :: as) = shown (b :: as) := by
  have hblank : a.isBlank = b.isBlank := by rw [isBlank, isBlank, hkey, hvalue]
  simp only [shown, List.filter_cons, hblank]
  split
  · rw [List.map_cons, List.map_cons, hkey, hvalue, hseparator]
  · rfl

theorem shown_split (t : Text) : shown (split t) = shown (ofText t) := by
  rw [← splitAny_eq_ofText, splitAny]
  split
  next h =>
    rw [(split_eq_nil_iff t).2 (List.all_eq_true.1 h), shown_cons_of_isBlank rfl]
  next => rfl

/-! ## Arguments with something in front of them -/

theorem shown_ofPiece_trivia (hw : Trivia w) (raw : Text) (separator : Option Separator)
    (as : List Argument) :
    shown (ofPiece (w ++ raw) separator :: as) = shown (ofPiece raw separator :: as) := by
  by_cases h : dropComments false raw = []
  · rw [shown_cons_of_isBlank ((isBlank_ofPiece_iff _ _).2 h), shown_cons_of_isBlank]
    rwa [isBlank_ofPiece_iff, dropComments_trivia hw]
  · have hpiece : ofPiece (w ++ raw) separator =
        { ofPiece raw separator with raw := w ++ raw } := by
      simp only [ofPiece, dropComments_trim_trivia hw h]
      cases Key.read? (dropComments false (trim raw)) <;> rfl
    exact shown_congr (by rw [hpiece]) (by rw [hpiece]) (by rw [hpiece]) as

theorem shown_ofText_trivia (hw : Trivia w) (t : Text) :
    shown (ofText (w ++ t)) = shown (ofText t) := by
  obtain ⟨piece, separator, segments, -, hsegments, -⟩ := exists_segments (plain 0) t
  rw [ofText, ofText, (passes_trivia hw t).segments, hsegments]
  exact shown_ofPiece_trivia hw piece separator _

/-- With a separator behind them, white space and comments are an argument that is blank. -/
theorem shown_ofText_separator (hw : Trivia w) (s : Separator) (t : Text) :
    shown (ofText (w ++ s.char :: t)) = shown (ofText t) := by
  have hblank : (ofPiece w (some s)).isBlank = true :=
    (isBlank_ofPiece_iff _ _).2 (dropComments_eq_nil_iff.2 (.inl hw))
  have hsegments := (passes_trivia hw (s.char :: t)).segments
  rw [segments_separator, List.modifyHead_cons, List.append_nil] at hsegments
  rw [ofText, hsegments]
  exact shown_cons_of_isBlank hblank _

/-- Up to a separator the arguments do not depend on what is behind it. -/
theorem exists_ofText_append
    (h : front = [] ∨ ∃ cut ∈ cuts (front ++ back), byteLength front = cut.offset + 1) :
    ∃ as, ∀ behind, ofText (front ++ behind) = as ++ ofText behind := by
  obtain rfl | ⟨cut, hcut, hfront⟩ := h
  · exact ⟨[], fun _ => rfl⟩
  · obtain ⟨before, rfl, hneutral⟩ := exists_neutral_of_mem_cuts hcut hfront
    refine ⟨endedBy cut.separator (ofText before), fun behind => ?_⟩
    rw [List.append_assoc, List.singleton_append, ofText_join hneutral]

end Argument

open Argument

/-- An argument is blank if and only if its piece is made of white space and comments, the last of
which may lack its end. And white space and comments, with or without a separator behind them, can
be written at the start of a text and behind each of its cuts: what the arguments say that are not
blank stays the same. -/
theorem trivia_invisible :
    (∀ t : Text, ∀ a ∈ split t, a.isBlank = true ↔ Trivia a.raw ∨ TriviaOpen a.raw) ∧
    ∀ front back w x : Text,
      (front = [] ∨ ∃ cut ∈ cuts (front ++ back), byteLength front = cut.offset + 1) →
      Trivia w → (x = w ∨ ∃ s : Separator, x = w ++ [s.char]) →
      shown (split (front ++ x ++ back)) = shown (split (front ++ back)) := by
  constructor
  · intro t a ha
    rw [split] at ha
    split at ha
    · cases ha
    · obtain ⟨piece, -, rfl⟩ := List.mem_map.1 ha
      rw [isBlank_ofPiece_iff, raw_ofPiece, dropComments_eq_nil_iff]
  · intro front back w x hfront hw hx
    obtain ⟨as, has⟩ := exists_ofText_append hfront
    rw [shown_split, shown_split, List.append_assoc, has, has, shown_append, shown_append]
    obtain rfl | ⟨s, rfl⟩ := hx
    · rw [shown_ofText_trivia hw]
    · rw [List.append_assoc, List.singleton_append, shown_ofText_separator hw]

/-- A comment with a `;` and the beginning of another comment in it, behind the first separator. -/
theorem trivia_invisible_of_comment :
    shown (split "f(1,2),/*;/*/ ;$b: 'é'".toList) = shown (split "f(1,2),$b: 'é'".toList) := by
  have htrivia : Trivia ('/' :: '*' :: ([';', '/'] ++ '*' :: '/' :: [' '])) :=
    .comment (by decide) (.blank (by decide) .nil)
  exact trivia_invisible.2 "f(1,2),".toList "$b: 'é'".toList _ "/*;/*/ ;".toList
    (.inr ⟨⟨6, .comma⟩, by decide, rfl⟩) htrivia (.inr ⟨.semicolon, rfl⟩)

end CallLint
