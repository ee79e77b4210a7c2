import CallLint.Forest.Tally
import CallLint.Proofs.Forest.Reading

/-!
# Canonical forests

A forest is canonical when everything in it is complete and its text is not open to another
reading: white space and words are not split up, no word runs into a call, no `/` meets a `*`, and
a call with the name of an address does not begin like one.

* `Canonical.stands`: a canonical forest stands at the end of a text and in front of a `)`.
-/

namespace CallLint

open Text

/-- The leaf is complete and has the right form. -/
def Leaf.Canonical : Leaf → Prop
  | .space t => t ≠ [] ∧ ∀ c ∈ t, isBlank c = true
  | .word t => t ≠ [] ∧ Units endsWord t
  | .quoted mark body closed => closed = true ∧ isQuote mark = true ∧ Units (· = mark) body
  | .comment body closed => closed = true ∧ ¬ ['*', '/'] <:+: body
  | .divider mark => isDivider mark = true
  | .address name body closed =>
    closed = true ∧ Token.isAddressName name = true ∧ Units (· = ')') body ∧
      ∃ c, (trimStart body).head? = some c ∧ isQuote c = false

/-- The second node may follow the first one. -/
def Node.MayPrecede : Node → Node → Prop
  | .leaf (.space _), n => n.kind ≠ .space
  | .leaf (.word _), n => n.kind ≠ .word ∧ n.kind ≠ .call
  | .leaf (.divider mark), n => mark = '/' → n.text.head? ≠ some '*'
  | _, _ => True

/-- The forest is complete, and its text is not open to another reading. -/
def Forest.Canonical : Forest → Prop
  | .nil => True
  | .leaf part rest =>
    part.Canonical ∧ (∀ n ∈ rest.nodes.head?, (Node.leaf part).MayPrecede n) ∧ rest.Canonical
  | .call name inside closed rest =>
    closed = true ∧ Units endsWord name ∧
      (Token.isAddressName name = true → Token.startsAddress inside.text = false) ∧
      inside.Canonical ∧ rest.Canonical

/-! ## The first character of a node -/

theorem isBlank_of_endsWord {c : Char} (h : endsWord c = false) : isBlank c = false :=
  (Token.endsWord_eq_false_iff.1 h).1

theorem isBlank_of_mem_head {name t : Text} (h : Units endsWord name) {c : Char}
    (hc : c ∈ (name ++ '(' :: t).head?) : isBlank c = false := by
  cases name with
  | nil =>
    obtain rfl : '(' = c := by simpa using hc
    decide
  | cons d name =>
    obtain rfl : d = c := by simpa using hc
    exact isBlank_of_endsWord (h.head Token.endsWord_backslash)

/-- Only white space begins with white space. -/
theorem Leaf.Canonical.isBlank_head {part : Leaf} (h : part.Canonical)
    (hkind : (Node.leaf part).kind ≠ .space) (after : Text) :
    ∀ c ∈ (part.text ++ after).head?, isBlank c = false := by
  intro c hc
  cases part with
  | space t => exact absurd rfl hkind
  | word t =>
    obtain ⟨hne, hu⟩ := h
    cases t with
    | nil => exact absurd rfl hne
    | cons d t =>
      obtain rfl : d = c := by simpa [text] using hc
      exact isBlank_of_endsWord (hu.head Token.endsWord_backslash)
  | quoted mark body closed =>
    obtain rfl : mark = c := by simpa [text] using hc
    exact Token.isBlank_of_isQuote h.2.1
  | comment body closed =>
    obtain rfl : '/' = c := by simpa [text] using hc
    decide
  | divider mark =>
    obtain rfl : mark = c := by simpa [text] using hc
    exact Token.isBlank_of_isDivider h
  | address name body closed =>
    have hc' : c ∈ (name ++ '(' :: (body ++ ((if closed then [')'] else []) ++ after))).head? := by
      simpa [text] using hc
    exact isBlank_of_mem_head (Token.units_of_isAddressName h.2.1) hc'

theorem Leaf.Canonical.text_ne_nil {part : Leaf} (h : part.Canonical) : part.text ≠ [] := by
  cases part with
  | space t => exact h.1
  | word t => exact h.1
  | quoted mark body closed => simp [text]
  | comment body closed => simp [text]
  | divider mark => simp [text]
  | address name body closed => simp [text]

theorem Leaf.Canonical.closed {part : Leaf} (h : part.Canonical) : part.closed = true := by
  cases part with
  | quoted mark body closed => exact h.1
  | comment body closed => exact h.1
  | address name body closed => exact h.1
  | _ => rfl

/-- A leaf that is neither a word nor an address begins with a character that ends words. -/
theorem Leaf.Canonical.endsWord_head {part : Leaf} (h : part.Canonical)
    (hword : (Node.leaf part).kind ≠ .word) (hcall : (Node.leaf part).kind ≠ .call)
    (after : Text) :
    ∃ c, (part.text ++ after).head? = some c ∧ endsWord c = true ∧ c ≠ '(' := by
  cases part with
  | space t =>
    obtain ⟨hne, hb⟩ := h
    cases t with
    | nil => exact absurd rfl hne
    | cons c t =>
      have hc := hb c List.mem_cons_self
      refine ⟨c, rfl, by simp [endsWord, hc], ?_⟩
      rintro rfl
      exact absurd hc (by decide)
  | word t => exact absurd rfl hword
  | quoted mark body closed =>
    have hm := h.2.1
    refine ⟨mark, rfl, by simp [endsWord, hm], ?_⟩
    rintro rfl
    exact absurd hm (by decide)
  | comment body closed => exact ⟨'/', rfl, by decide, by decide⟩
  | divider mark =>
    have hm : isDivider mark = true := h
    refine ⟨mark, rfl, by simp [endsWord, hm], ?_⟩
    rintro rfl
    exact absurd hm (by decide)
  | address name body closed => exact absurd rfl hcall

/-! ## Canonical forests stand -/

/-- The text behind a canonical forest: nothing, or the `)` of the call around it. -/
def Ends (after : Text) : Prop := after = [] ∨ ∃ t, after = ')' :: t

theorem startsAddress_of_units {body : Text} (h : Units (· = ')') body)
    (hc : ∃ c, (trimStart body).head? = some c ∧ isQuote c = false) :
    Token.startsAddress body = true := by
  induction h with
  | nil =>
    obtain ⟨c, hc, -⟩ := hc
    cases hc
  | escape c _ _ =>
    rw [Token.startsAddress_cons (by decide)]
    decide
  | @plain c t _ hs _ ih =>
    by_cases hb : isBlank c = true
    · rw [Token.startsAddress_cons_blank hb]
      exact ih (by simpa [trimStart, hb] using hc)
    · obtain ⟨d, hd, hq⟩ := hc
      have htrim : trimStart (c :: t) = c :: t := by simp [trimStart, hb]
      rw [htrim] at hd
      obtain rfl := Option.some.inj hd
      rw [Token.startsAddress_cons (by simpa using hb)]
      simpa [hq] using hs

namespace Forest

variable {rest : Forest} {after : Text}

/-- Behind white space that is not split up, something else begins. -/
theorem isBlank_head (h : rest.Canonical) (ha : Ends after)
    (hkind : ∀ n ∈ rest.nodes.head?, n.kind ≠ .space) :
    ∀ c ∈ (rest.text ++ after).head?, isBlank c = false := by
  cases rest with
  | nil =>
    intro c hc
    rcases ha with rfl | ⟨t, rfl⟩
    · cases hc
    · obtain rfl : ')' = c := by simpa using hc
      decide
  | leaf part rest =>
    rw [text_leaf, List.append_assoc]
    exact h.1.isBlank_head (hkind _ rfl) _
  | call name inside closed rest =>
    intro c hc
    have hc' : c ∈ (name ++ '(' :: (inside.text ++ ((if closed then [')'] else []) ++
        (rest.text ++ after)))).head? := by simpa using hc
    exact isBlank_of_mem_head h.2.1 hc'

/-- Behind a word that is not split up and names no call, something begins that ends words. -/
theorem endsWord_head (h : rest.Canonical) (ha : Ends after)
    (hkind : ∀ n ∈ rest.nodes.head?, n.kind ≠ .word ∧ n.kind ≠ .call) :
    ∀ c ∈ (rest.text ++ after).head?, endsWord c = true ∧ c ≠ '(' := by
  intro c hc
  cases rest with
  | nil =>
    rcases ha with rfl | ⟨t, rfl⟩
    · cases hc
    · obtain rfl : ')' = c := by simpa using hc
      decide
  | leaf part rest =>
    obtain ⟨hword, hcall⟩ := hkind _ rfl
    obtain ⟨d, hd, he⟩ := h.1.endsWord_head hword hcall (rest.text ++ after)
    rw [text_leaf, List.append_assoc, hd] at hc
    obtain rfl := Option.some.inj hc
    exact he
  | call name inside closed rest => exact absurd rfl (hkind _ rfl).2

/-- Behind a `/`, no `*` begins. -/
theorem star_head (h : rest.Canonical) (ha : Ends after)
    (hstar : ∀ n ∈ rest.nodes.head?, n.text.head? ≠ some '*') :
    (rest.text ++ after).head? ≠ some '*' := by
  cases rest with
  | nil =>
    rcases ha with rfl | ⟨t, rfl⟩
    · simp
    · simp
  | leaf part rest =>
    obtain ⟨c, t, ht⟩ := List.exists_cons_of_ne_nil h.1.text_ne_nil
    have hs := hstar _ rfl
    rw [Node.text_leaf, ht] at hs
    rwa [text_leaf, ht]
  | call name inside closed rest =>
    have hs := hstar _ rfl
    cases name with
    | nil => simp
    | cons c name => simpa using hs

theorem Canonical.leaf_stands {part : Leaf} (h : (Forest.leaf part rest).Canonical)
    (ha : Ends after) : part.Stands (rest.text ++ after) := by
  obtain ⟨hpart, hnext, hrest⟩ := h
  cases part with
  | space t => exact ⟨hpart.1, hpart.2, isBlank_head hrest ha hnext⟩
  | word t =>
    have hhead := endsWord_head hrest ha hnext
    exact ⟨hpart.1, .inl ⟨hpart.2, fun c hc => (hhead c hc).1⟩, fun hc => (hhead _ hc).2 rfl⟩
  | quoted mark body closed =>
    obtain ⟨rfl, hm, hu⟩ := hpart
    exact ⟨hm, hu⟩
  | comment body closed =>
    obtain ⟨rfl, hbody⟩ := hpart
    exact ⟨hbody, by simp⟩
  | divider mark =>
    exact ⟨hpart, fun hm => star_head hrest ha fun n hn => hnext n hn hm⟩
  | address name body closed =>
    obtain ⟨rfl, hname, hu, hc⟩ := hpart
    exact ⟨hname, startsAddress_of_units hu hc, hu⟩

/-- A canonical forest stands at the end of a text and in front of a `)`. -/
theorem Canonical.stands {f : Forest} (h : f.Canonical) (nested : Bool) (ha : Ends after) :
    f.Stands nested after := by
  induction f generalizing nested after with
  | nil => trivial
  | leaf part rest ih => exact ⟨.inl (h.leaf_stands ha), ih h.2.2 nested ha⟩
  | call name inside closed rest ihInside ih =>
    obtain ⟨rfl, hname, hstarts, hinside, hrest⟩ := h
    refine ⟨⟨hname, fun hn => ?_⟩, ihInside hinside true (.inr ⟨_, rfl⟩), ih hrest nested ha,
      by simp⟩
    rw [if_pos rfl, List.singleton_append, Token.startsAddress_append_closing]
    exact hstarts hn

end Forest

end CallLint
