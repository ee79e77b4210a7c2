import CallLint.Proofs.Forest.Joining
import CallLint.Proofs.Layout.Place
import Mathlib.Data.List.Forall2

/-!
# Another body for an address

The body of an address may be exchanged for any other text that can be one. The value then is read
as before, with the other body in that place: nothing of the body is seen from outside the address.

* `Forest.Exchanged`: two forests that are the same but for the body of one address.
* `Exchanged.stands`: where one of them stands, the other stands too.
* `exchanged_parse`: reading a value with the body of an address exchanged.
* `Exchanged.calls`: the calls of both forests, one by one.
-/

namespace CallLint

open Text

namespace Text

/-- The text can be the body of an address: no `)` stands in it outside escapes, no backslash alone
at its end, and its first character that is not white space is neither a quote nor `)`. -/
def IsAddressBody (t : Text) : Prop := Units (· = ')') t ∧ Token.startsAddress t = true

/-- The text of an address, from its name to its `)`. -/
def address (name body : Text) : Text := name ++ '(' :: (body ++ [')'])

/-- The texts are the same but for the body of one address. -/
def Exchanged (name body body' t t' : Text) : Prop :=
  ∃ x y, t = x ++ (address name body ++ y) ∧ t' = x ++ (address name body' ++ y)

variable {name body body' t t' : Text}

theorem Exchanged.append_left (h : Exchanged name body body' t t') (s : Text) :
    Exchanged name body body' (s ++ t) (s ++ t') := by
  obtain ⟨x, y, rfl, rfl⟩ := h
  exact ⟨s ++ x, y, by simp, by simp⟩

theorem Exchanged.append_right (h : Exchanged name body body' t t') (s : Text) :
    Exchanged name body body' (t ++ s) (t' ++ s) := by
  obtain ⟨x, y, rfl, rfl⟩ := h
  exact ⟨x, y ++ s, by simp, by simp⟩

theorem ne_nil_of_isAddressName (h : Token.isAddressName name = true) : name ≠ [] := by
  rintro rfl
  cases h

/-- An address begins with a letter. -/
theorem exists_name (h : Token.isAddressName name = true) :
    ∃ c letters, name = c :: letters ∧ c.isAlpha = true := by
  obtain ⟨c, letters, rfl⟩ := List.exists_cons_of_ne_nil (ne_nil_of_isAddressName h)
  exact ⟨c, letters, rfl, Token.isAlpha_of_isAddressName h c List.mem_cons_self⟩

/-- Up to the first letter of the address nothing changes. -/
theorem Exchanged.exists_head (h : Exchanged name body body' t t')
    (hname : Token.isAddressName name = true) :
    ∃ x c y y', t = x ++ c :: y ∧ t' = x ++ c :: y' ∧ c.isAlpha = true := by
  obtain ⟨x, y, rfl, rfl⟩ := h
  obtain ⟨c, letters, rfl, hc⟩ := exists_name hname
  exact ⟨x, c, _, _, rfl, rfl, hc⟩

end Text

/-- Whether an address begins is settled by the first character that is not white space. -/
theorem Token.startsAddress_append_cons {c : Char} (hc : isBlank c = false) (s t : Text) :
    startsAddress (s ++ c :: t) = startsAddress (s ++ [c]) := by
  induction s with
  | nil => rw [List.nil_append, List.nil_append, startsAddress_cons hc, startsAddress_cons hc]
  | cons d s ih =>
    by_cases hd : isBlank d = true
    · rw [List.cons_append, List.cons_append, startsAddress_cons_blank hd,
        startsAddress_cons_blank hd, ih]
    · rw [List.cons_append, List.cons_append, startsAddress_cons (by simpa using hd),
        startsAddress_cons (by simpa using hd)]

/-- The calls have the same name, and between their parentheses stands the same text but for the
body of one address; or they are this address. -/
def Node.Exchanged (name body body' : Text) (n n' : Node) : Prop :=
  n'.name = n.name ∧
    (n.name = name ∨ n'.inner = n.inner ∨ Text.Exchanged name body body' n.inner n'.inner)

namespace Forest

/-- The forests are the same but for the body of one address. -/
inductive Exchanged (name body body' : Text) : Forest → Forest → Prop
  | here (rest : Forest) :
      Exchanged name body body' (.leaf (.address name body true) rest)
        (.leaf (.address name body' true) rest)
  | afterLeaf (part : Leaf) {rest rest' : Forest} (h : Exchanged name body body' rest rest') :
      Exchanged name body body' (.leaf part rest) (.leaf part rest')
  | inside (outer : Text) {inside inside' : Forest} (closed : Bool) (rest : Forest)
      (h : Exchanged name body body' inside inside') :
      Exchanged name body body' (.call outer inside closed rest) (.call outer inside' closed rest)
  | afterCall (outer : Text) (inside : Forest) (closed : Bool) {rest rest' : Forest}
      (h : Exchanged name body body' rest rest') :
      Exchanged name body body' (.call outer inside closed rest) (.call outer inside closed rest')

namespace Exchanged

variable {name body body' : Text} {f f' : Forest}

theorem text (h : Exchanged name body body' f f') :
    Text.Exchanged name body body' f.text f'.text := by
  induction h with
  | here rest => exact ⟨[], rest.text, by simp [Leaf.text, address], by simp [Leaf.text, address]⟩
  | afterLeaf part _ ih => exact ih.append_left part.text
  | inside outer closed rest _ ih =>
    have hcall := (ih.append_left (outer ++ ['('])).append_right
      ((if closed then [')'] else []) ++ rest.text)
    simpa using hcall
  | afterCall outer inside closed _ ih =>
    rw [text_call, text_call]
    exact ih.append_left _

/-- Where one of the forests stands, the other stands too. -/
theorem stands (h : Exchanged name body body' f f') (hname : Token.isAddressName name = true)
    (hbody : IsAddressBody body') {nested : Bool} {after : Text} (hf : f.Stands nested after) :
    f'.Stands nested after := by
  induction h generalizing nested after with
  | here rest => exact ⟨.inl ⟨hname, hbody.2, hbody.1⟩, hf.2⟩
  | @afterLeaf part rest rest' h ih =>
    obtain ⟨hpart, hrest⟩ := hf
    obtain ⟨x, c, y, y', hy, hy', -⟩ := h.text.exists_head hname
    refine ⟨hpart.imp_left fun hs => ?_, ih hrest⟩
    -- the leaf looks at one character of what is behind it, and the address has a name
    rw [hy, List.append_assoc, List.cons_append] at hs
    rw [hy', List.append_assoc, List.cons_append]
    exact hs.congr_tail _
  | @inside outer inside inside' closed rest h ih =>
    obtain ⟨⟨houter, hstarts⟩, hinside, hrest, hclosed⟩ := hf
    obtain ⟨x, c, y, y', hy, hy', hc⟩ := h.text.exists_head hname
    refine ⟨⟨houter, fun hn => ?_⟩, ih hinside, hrest, hclosed⟩
    have hs := hstarts hn
    rw [hy, List.append_assoc, List.cons_append,
      Token.startsAddress_append_cons (Token.isBlank_of_isAlpha hc)] at hs
    rwa [hy', List.append_assoc, List.cons_append,
      Token.startsAddress_append_cons (Token.isBlank_of_isAlpha hc)]
  | @afterCall outer inside closed rest rest' h ih =>
    obtain ⟨⟨houter, hstarts⟩, hinside, hrest, hclosed⟩ := hf
    cases closed with
    | true =>
      -- the `)` of the call hides the exchange from what is in front of it
      refine ⟨⟨houter, fun hn => ?_⟩, hinside.congr_head _, ih hrest, by simp⟩
      have hs := hstarts hn
      rw [if_pos rfl, List.singleton_append, Token.startsAddress_append_closing] at hs ⊢
      exact hs
    | false =>
      obtain ⟨rfl, -⟩ := hclosed rfl
      cases h

/-- The calls of both forests, one by one. -/
theorem calls (h : Exchanged name body body' f f') :
    List.Forall₂ (Node.Exchanged name body body') f.calls f'.calls := by
  have hsame : ∀ g : Forest, List.Forall₂ (Node.Exchanged name body body') g.calls g.calls :=
    fun g => List.forall₂_same.2 fun n _ => ⟨rfl, .inr (.inl rfl)⟩
  induction h with
  | here rest =>
    rw [calls_leaf, calls_leaf]
    exact .cons ⟨rfl, .inl rfl⟩ (hsame rest)
  | afterLeaf part _ ih =>
    rw [calls_leaf, calls_leaf]
    split
    · exact .cons ⟨rfl, .inr (.inl rfl)⟩ ih
    · exact ih
  | inside outer closed rest h ih =>
    rw [calls_call, calls_call]
    exact .cons ⟨rfl, .inr (.inr h.text)⟩ (List.rel_append ih (hsame rest))
  | afterCall outer inside closed _ ih =>
    rw [calls_call, calls_call]
    exact .cons ⟨rfl, .inr (.inl rfl)⟩ (List.rel_append (hsame inside) ih)

end Exchanged

/-- Around an address in a forest everything may stay as it is when the body is exchanged. -/
theorem Within.exists_exchanged {name body before after : Text} {first : Nat} {f rest : Forest}
    (h : Within f before first (.leaf (.address name body true) rest) after) (body' : Text) :
    ∃ f', Exchanged name body body' f f' ∧
      f'.text = before ++ (address name body' ++ (rest.text ++ after)) := by
  generalize hg : Forest.leaf (.address name body true) rest = g at h
  induction h with
  | all f =>
    subst hg
    exact ⟨_, .here rest, by simp [Leaf.text, address]⟩
  | @afterLeaf part _ _ _ _ _ _ ih =>
    obtain ⟨f', hf', ht⟩ := ih hg
    exact ⟨_, .afterLeaf part hf', by simp [ht]⟩
  | @inside outer _ rest' _ closed _ _ _ _ ih =>
    obtain ⟨f', hf', ht⟩ := ih hg
    exact ⟨_, .inside outer closed rest' hf', by simp [ht]⟩
  | @afterCall outer inside _ _ closed _ _ _ _ ih =>
    obtain ⟨f', hf', ht⟩ := ih hg
    exact ⟨_, .afterCall outer inside closed hf', by simp [ht]⟩

/-- Reading a value with the body of an address exchanged. -/
theorem exchanged_parse {t name body before after : Text} {first : Nat} {rest : Forest}
    (h : Within (parse t) before first (.leaf (.address name body true) rest) after)
    {body' : Text} (hbody : IsAddressBody body') :
    Exchanged name body body' (parse t)
      (parse (before ++ (address name body' ++ (rest.text ++ after)))) := by
  obtain ⟨f', hf', ht⟩ := h.exists_exchanged body'
  obtain ⟨-, -, nested, hstands⟩ := within_parse h
  have hread : parse (before ++ (address name body' ++ (rest.text ++ after))) = f' :=
    parse_eq_iff.2 ⟨ht, hf'.stands hstands.address.1 hbody (stands_parse t)⟩
  rwa [hread]

end Forest

end CallLint
