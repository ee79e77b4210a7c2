import CallLint.Proofs.Forest.Canonical
import CallLint.Proofs.Layout.Place

/-!
# The forest that a layout shows

`Layout.Shows l t f is` reads a forest off the entries of a layout and the text alone: the entries
of the given numbers are those of the nodes of `f`, and the children of a call are those of the
nodes inside it.

* `shows_parse`: the layout of a value shows its forest.
* `read_canonical`: reading the text of a canonical forest gives this forest again.
-/

namespace CallLint

open Text

/-- The entry and the text at its ranges are those of the node. -/
structure Entry.Shows (e : Entry) (t : Text) (n : Node) : Prop where
  kind : e.node.kind = n.kind
  closed : e.node.closed = n.closed
  value : e.value.cut t = n.value
  source : e.source.cut t = n.text
  inner : e.inner.cut t = n.inner

/-- What is inside a leaf: the trimmed word inside an address, and nothing inside others. -/
def Layout.ShowsInside (l : Layout) (t : Text) (is : List Nat) : Leaf → Prop
  | .address _ body _ => ∃ i e, is = [i] ∧ l.entries[i]? = some e ∧
      e.Shows t (.leaf (.word (trim body))) ∧ e.children = []
  | _ => is = []

/-- The entries of the given numbers are those of the nodes of the forest. -/
def Layout.Shows (l : Layout) (t : Text) : Forest → List Nat → Prop
  | .nil, is => is = []
  | .leaf part rest, is => ∃ i is' e, is = i :: is' ∧ l.entries[i]? = some e ∧
      e.Shows t (.leaf part) ∧ l.ShowsInside t e.children part ∧ l.Shows t rest is'
  | .call name inside closed rest, is => ∃ i is' e, is = i :: is' ∧ l.entries[i]? = some e ∧
      e.Shows t (.call name inside closed) ∧ l.Shows t inside e.children ∧ l.Shows t rest is'

theorem Entry.Placed.shows {t : Text} {e : Entry} (h : e.Placed t) : e.Shows t e.node :=
  ⟨rfl, rfl, h.value.cut, h.source.cut, h.inner.cut⟩

namespace Forest

theorem showsInside_parse {t before after : Text} {part : Leaf} {rest : Forest} {first : Nat}
    (h : Within (parse t) before first (.leaf part rest) after) :
    (parse t).layout.ShowsInside t (part.entry first (byteLength before)).children part := by
  cases part with
  | address name body closed =>
    obtain ⟨-, hholds, nested, hstands⟩ := within_parse h
    obtain ⟨-, hstarts, -⟩ := hstands.address
    have hne := trim_ne_nil_of_startsAddress hstarts
    have hw := hholds.leaf.2.1 0 (by simp [Leaf.wordCount, hne])
    simp only [Leaf.words, hne, if_false, Nat.add_zero] at hw
    exact ⟨first, _, by simp [Leaf.entry, hne], hw, (placed_of_mem hw).shows, rfl⟩
  | _ => rfl

/-- The layout of a value shows each part of its forest. -/
theorem shows_within {t before after : Text} {f : Forest} {first : Nat}
    (h : Within (parse t) before first f after) :
    (parse t).layout.Shows t f (f.rootsFrom first) := by
  induction f generalizing before first after with
  | nil => rfl
  | leaf part rest ih =>
    obtain ⟨hown, -⟩ := (within_parse h).2.1.leaf
    have hrest := ih (by simpa using h.trans (.afterLeaf (.all rest)))
    refine ⟨_, _, _, rfl, hown, ?_, showsInside_parse h, hrest⟩
    simpa using (placed_of_mem hown).shows
  | call name inside closed rest ihInside ih =>
    obtain ⟨hown, -⟩ := (within_parse h).2.1.call
    have hrest := ih (by simpa using h.trans (.afterCall (.all rest)))
    exact ⟨_, _, _, rfl, hown, (placed_of_mem hown).shows, ihInside h.inside_call, hrest⟩

/-- The layout of a value shows its forest. -/
theorem shows_parse (t : Text) :
    (parse t).layout.Shows t (parse t) (parse t).layout.roots := by
  have hroots : (parse t).layout.roots = (parse t).rootsFrom 0 := by rw [layout_eq]
  rw [hroots]
  exact shows_within (.all (parse t))

/-! ## Canonical forests -/

theorem Canonical.closed_of_mem {f : Forest} (h : f.Canonical) (base pos : Nat) :
    ∀ e ∈ f.entriesFrom base pos, e.node.closed = true := by
  induction f generalizing base pos with
  | nil => simp [entriesFrom]
  | leaf part rest ih =>
    obtain ⟨hpart, -, hrest⟩ := h
    intro e he
    rw [entriesFrom, List.mem_append, List.mem_cons] at he
    rcases he with he | rfl | he
    · exact Leaf.closed_of_mem_words he
    · rw [Leaf.entry_node]
      exact hpart.closed
    · exact ih hrest _ _ e he
  | call name inside closed rest ihInside ih =>
    obtain ⟨hclosed, -, -, hinside, hrest⟩ := h
    intro e he
    rw [entriesFrom, List.mem_append, List.mem_cons] at he
    rcases he with he | rfl | he
    · exact ihInside hinside _ _ e he
    · exact hclosed
    · exact ih hrest _ _ e he

/-- Reading the text of a canonical forest gives this forest again. It is what the layout shows,
and nothing in it lacks its end. -/
theorem read_canonical {f : Forest} (h : f.Canonical) :
    parse f.text = f ∧ (parse f.text).layout.Shows f.text f (parse f.text).layout.roots ∧
      ∀ (i : Nat) (e : Entry), (parse f.text).layout.entries[i]? = some e →
        e.node.closed = true := by
  have hparse := parse_of_stands (h.stands false (.inl rfl))
  have hshows := shows_parse f.text
  rw [hparse] at hshows ⊢
  refine ⟨rfl, hshows, fun i e he => ?_⟩
  rw [layout_eq, List.getElem?_toArray] at he
  exact h.closed_of_mem 0 0 e (List.mem_of_getElem? he)

/-- Escapes in a word and in a string, a call that holds a comment, and an address behind it. -/
theorem read_canonical_of_escapes :
    ∃ f : Forest, f.Canonical ∧ f.text = "a\\, g('\\'',/*;*/)url( b)".toList ∧
      parse f.text = f := by
  have hinside : Canonical
      (.leaf (.quoted '\'' ['\\', '\''] true) <| .leaf (.divider ',') <|
        .leaf (.comment [';'] true) .nil) := by
    refine ⟨⟨rfl, by decide, .escape '\'' .nil⟩, by simp [Node.MayPrecede], ?_⟩
    exact ⟨rfl, by simp [nodes, Node.MayPrecede], ⟨rfl, by decide⟩, by simp [nodes], trivial⟩
  have haddress : (Leaf.address ['u', 'r', 'l'] [' ', 'b'] true).Canonical :=
    ⟨rfl, by decide, .plain (by decide) (by decide) (.plain (by decide) (by decide) .nil), 'b',
      by decide, by decide⟩
  have h : Canonical
      (.leaf (.word ['a', '\\', ',']) <| .leaf (.space [' ']) <|
        .call ['g'] (.leaf (.quoted '\'' ['\\', '\''] true) <| .leaf (.divider ',') <|
          .leaf (.comment [';'] true) .nil) true <|
        .leaf (.address ['u', 'r', 'l'] [' ', 'b'] true) .nil) := by
    refine ⟨⟨by simp, .plain (by decide) (by decide) (.escape ',' .nil)⟩, ?_,
      ⟨by simp, List.forall_mem_singleton.2 (by decide)⟩, ?_, rfl,
      .plain (by decide) (by decide) .nil, by decide, hinside, haddress, by simp [nodes], trivial⟩
    · simp [nodes, Node.MayPrecede, Node.kind]
    · simp [nodes, Node.MayPrecede, Node.kind]
  exact ⟨_, h, by decide, (read_canonical h).1⟩

end Forest

end CallLint
