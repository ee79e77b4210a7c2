import CallLint.Argument
import CallLint.Forest.Tally
import CallLint.Proofs.Forest.Reading
import CallLint.Proofs.Text.Trim

/-!
# Blank arguments

An argument is blank when nothing is left of its piece of text without white space and comments.

* `isBlank_ofPiece_iff`: the white space around the piece makes no difference.
* `Leaf.Stands.dropComments_eq_nil_iff`: of a leaf, something is left if it is neither white space
  nor a comment.
-/

namespace CallLint

open Text

namespace Argument

/-! ## Dropping comments -/

theorem dropComments_blank {c : Char} (hc : Text.isBlank c = true) (t : Text) :
    dropComments false (c :: t) = dropComments false t := by
  rw [dropComments.eq_4]
  · simp [hc]
  · rintro u rfl -
    exact absurd hc (by decide)
  · rintro u rfl -
    exact absurd hc (by decide)

theorem dropComments_blanks {s : Text} (hs : ∀ c ∈ s, Text.isBlank c = true) (t : Text) :
    dropComments false (s ++ t) = dropComments false t := by
  induction s with
  | nil => rfl
  | cons c s ih =>
    rw [List.cons_append, dropComments_blank (hs c List.mem_cons_self)]
    exact ih fun d hd => hs d (List.mem_cons_of_mem _ hd)

/-- Nothing is dropped in front of a character that begins neither white space nor a comment. -/
theorem dropComments_cons {c : Char} {t : Text} (hc : Text.isBlank c = false)
    (hstar : c = '/' → t.head? ≠ some '*') : dropComments false (c :: t) = c :: t := by
  by_cases hend : c = '*' ∧ t.head? = some '/'
  · obtain ⟨rfl, ht⟩ := hend
    obtain ⟨u, rfl⟩ := List.head?_eq_some_iff.1 ht
    rfl
  · rw [dropComments.eq_4]
    · simp [hc]
    · rintro u rfl rfl
      exact hend ⟨rfl, rfl⟩
    · rintro u rfl rfl
      exact hstar rfl rfl

/-- Within a comment, everything is dropped but its end. -/
theorem dropComments_true_cons {c : Char} {t : Text} (h : c = '*' → t.head? ≠ some '/') :
    dropComments true (c :: t) = dropComments true t := by
  by_cases hopen : c = '/' ∧ t.head? = some '*'
  · obtain ⟨rfl, ht⟩ := hopen
    obtain ⟨u, rfl⟩ := List.head?_eq_some_iff.1 ht
    rfl
  · rw [dropComments.eq_4]
    · rfl
    · rintro u rfl rfl
      exact h rfl rfl
    · rintro u rfl rfl
      exact hopen ⟨rfl, rfl⟩

/-- Within a comment, a text without the end of one is dropped. -/
theorem dropComments_true_append {s t : Text} (hs : ¬ ['*', '/'] <:+: s)
    (ht : t.head? ≠ some '/') : dropComments true (s ++ t) = dropComments true t := by
  induction s with
  | nil => rfl
  | cons c s ih =>
    rw [List.infix_cons_iff, not_or] at hs
    rw [List.cons_append, dropComments_true_cons, ih hs.2]
    rintro rfl hend
    cases s with
    | nil => exact ht hend
    | cons d s =>
      obtain rfl : d = '/' := by simpa using hend
      exact hs.1 ⟨s, rfl⟩

theorem dropComments_closed {body : Text} (h : ¬ ['*', '/'] <:+: body) (t : Text) :
    dropComments true (body ++ '*' :: '/' :: t) = dropComments false t :=
  dropComments_true_append h (by simp)

theorem dropComments_open {body : Text} (h : ¬ ['*', '/'] <:+: body) :
    dropComments true body = [] := by
  rw [← List.append_nil body, dropComments_true_append h (by simp)]
  rfl

theorem head?_of_append_blanks {s t : Text} {c : Char} (hs : ∀ d ∈ s, Text.isBlank d = true)
    (hc : Text.isBlank c = false) (h : (t ++ s).head? = some c) : t.head? = some c := by
  cases t with
  | nil =>
    obtain ⟨u, rfl⟩ := List.head?_eq_some_iff.1 h
    simp [hs c List.mem_cons_self] at hc
  | cons d t => exact h

theorem dropComments_of_blanks {s : Text} (hs : ∀ c ∈ s, Text.isBlank c = true) (inside : Bool) :
    dropComments inside s = [] := by
  cases inside with
  | false =>
    have h := dropComments_blanks hs []
    rwa [List.append_nil] at h
  | true =>
    refine dropComments_open fun hin => ?_
    exact absurd (hs '*' (hin.subset List.mem_cons_self)) (by decide)

/-- White space at the end makes no difference to whether something is left. -/
theorem dropComments_append_blanks {s : Text} (hs : ∀ c ∈ s, Text.isBlank c = true)
    (inside : Bool) (t : Text) :
    dropComments inside (t ++ s) = [] ↔ dropComments inside t = [] := by
  fun_induction dropComments inside t with
  | case1 inside => simp [dropComments_of_blanks hs]
  | case2 t ih => exact ih
  | case3 inside t hin =>
    obtain rfl : inside = false := by simpa using hin
    simp [dropComments]
  | case4 t ih => exact ih
  | case5 inside t hin ih =>
    obtain rfl : inside = false := by simpa using hin
    exact ih
  | case6 c t hend _ ih =>
    rw [List.cons_append, dropComments_true_cons, ih]
    rintro rfl h
    obtain ⟨u, rfl⟩ := List.head?_eq_some_iff.1 (head?_of_append_blanks hs (by decide) h)
    exact hend u rfl rfl
  | case7 inside c t _ _ hin hc ih =>
    obtain rfl : inside = false := by simpa using hin
    rw [List.cons_append, dropComments_blank hc, ih]
  | case8 inside c t _ hopen hin hc =>
    obtain rfl : inside = false := by simpa using hin
    rw [List.cons_append, dropComments_cons (by simpa using hc)]
    · simp
    · rintro rfl h
      obtain ⟨u, rfl⟩ := List.head?_eq_some_iff.1 (head?_of_append_blanks hs (by decide) h)
      exact hopen u rfl rfl

/-- The white space around a piece makes no difference to whether something is left. -/
theorem dropComments_trim (t : Text) :
    dropComments false (trim t) = [] ↔ dropComments false t = [] := by
  obtain ⟨front, back, ht, -, hfront, hback⟩ := exists_trim t
  rw [← dropComments_append_blanks hback false (trim t), ← dropComments_blanks hfront, ← ht]

/-- An argument is blank if and only if nothing is left of its piece of text. -/
theorem isBlank_ofPiece_iff (raw : Text) (separator : Option Separator) :
    (ofPiece raw separator).isBlank = true ↔ dropComments false raw = [] := by
  rw [← dropComments_trim]
  unfold ofPiece
  generalize dropComments false (trim raw) = body
  dsimp only
  constructor
  · intro h
    split at h
    · simp [isBlank] at h
    · simpa [isBlank] using h
  · rintro rfl
    rfl

end Argument

/-! ## The text of a forest -/

/-- The node is white space or a comment. -/
def Node.Idle (n : Node) : Prop := n.kind = .space ∨ n.kind = .comment

open Argument

theorem dropComments_ne_nil {c : Char} {t : Text} (hc : Text.isBlank c = false)
    (hstar : c = '/' → t.head? ≠ some '*') : dropComments false (c :: t) ≠ [] := by
  rw [dropComments_cons hc hstar]
  simp

theorem dropComments_of_endsWord {c : Char} (hc : endsWord c = false) (t : Text) :
    dropComments false (c :: t) ≠ [] := by
  obtain ⟨hb, -, hd, -⟩ := Token.endsWord_eq_false_iff.1 hc
  refine dropComments_ne_nil hb ?_
  rintro rfl
  exact absurd hd (by decide)

theorem dropComments_name {name : Text} (h : Units endsWord name) (t : Text) :
    dropComments false (name ++ '(' :: t) ≠ [] := by
  cases name with
  | nil => exact dropComments_ne_nil (by decide) (by simp)
  | cons c name => exact dropComments_of_endsWord (h.head Token.endsWord_backslash) _

/-- Of a leaf that stands, something is left if it is neither white space nor a comment. -/
theorem Leaf.Stands.dropComments_eq_nil_iff {part : Leaf} {after : Text} (h : part.Stands after) :
    dropComments false (part.text ++ after) = [] ↔
      (Node.leaf part).Idle ∧ dropComments false after = [] := by
  cases part with
  | space t =>
    obtain ⟨-, hb, -⟩ := h
    rw [Leaf.text, dropComments_blanks hb]
    simp [Node.Idle, Node.kind]
  | comment body closed =>
    obtain ⟨hbody, hclosed⟩ := h
    cases closed with
    | true =>
      have hdrop := dropComments_closed hbody after
      simp [Leaf.text, dropComments, Node.Idle, Node.kind, hdrop]
    | false =>
      obtain rfl := hclosed rfl
      have hdrop := dropComments_open hbody
      simp [Leaf.text, dropComments, Node.Idle, Node.kind, hdrop]
  | word t =>
    obtain ⟨hne, hruns, -⟩ := h
    obtain ⟨c, t, rfl⟩ := List.exists_cons_of_ne_nil hne
    have hleft := dropComments_of_endsWord (hruns.head Token.endsWord_backslash) (t ++ after)
    simpa [Leaf.text, Node.Idle, Node.kind] using hleft
  | quoted mark body closed =>
    have hmark : mark ≠ '/' := by
      rintro rfl
      exact absurd h.1 (by decide)
    have hleft := dropComments_ne_nil (Token.isBlank_of_isQuote h.1)
      (t := body ++ ((if closed then [mark] else []) ++ after)) (fun hc => absurd hc hmark)
    simpa [Leaf.text, Node.Idle, Node.kind] using hleft
  | divider mark =>
    have hleft := dropComments_ne_nil (Token.isBlank_of_isDivider h.1) h.2
    simpa [Leaf.text, Node.Idle, Node.kind] using hleft
  | address name body closed =>
    have hleft := dropComments_name (Token.units_of_isAddressName h.1)
      (body ++ ((if closed then [')'] else []) ++ after))
    simpa [Leaf.text, Node.Idle, Node.kind] using hleft

/-! ## Texts of white space -/

theorem Leaf.Stands.forall_isBlank_iff {part : Leaf} {after : Text} (h : part.Stands after) :
    (∀ c ∈ part.text, Text.isBlank c = true) ↔ (Node.leaf part).kind = .space := by
  cases part with
  | space t => exact iff_of_true h.2.1 rfl
  | word t =>
    obtain ⟨hne, hruns, -⟩ := h
    obtain ⟨c, t, rfl⟩ := List.exists_cons_of_ne_nil hne
    have hc := (Token.endsWord_eq_false_iff.1 (hruns.head Token.endsWord_backslash)).1
    simp [Leaf.text, Node.kind, hc]
  | quoted mark body closed => simp [Leaf.text, Node.kind, Token.isBlank_of_isQuote h.1]
  | comment body closed =>
    refine iff_of_false (fun hb => ?_) (by simp [Node.kind])
    exact absurd (hb '/' (by simp [Leaf.text])) (by decide)
  | divider mark => simp [Leaf.text, Node.kind, Token.isBlank_of_isDivider h.1]
  | address name body closed =>
    refine iff_of_false (fun hb => ?_) (by simp [Node.kind])
    exact absurd (hb '(' (by simp [Leaf.text])) (by decide)

/-- Only nodes of white space have a text of white space. -/
theorem Forest.Stands.forall_isBlank_iff {f : Forest} {after : Text} (h : f.Stands true after) :
    (∀ c ∈ f.text, Text.isBlank c = true) ↔ ∀ n ∈ f.nodes, n.kind = .space := by
  induction f with
  | nil => simp [nodes]
  | leaf part rest ih =>
    obtain ⟨hpart | ⟨hn, -⟩, hrest⟩ := h
    · rw [text_leaf, List.forall_mem_append, hpart.forall_isBlank_iff, ih hrest, nodes,
        List.forall_mem_cons]
    · cases hn
  | call name inside closed rest _ _ =>
    refine iff_of_false (fun hb => ?_) (fun hk => ?_)
    · exact absurd (hb '(' (by simp)) (by decide)
    · simpa [Node.kind] using hk _ List.mem_cons_self

end CallLint
