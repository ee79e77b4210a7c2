import CallLint.Proofs.Forest.Neighbours
import CallLint.Proofs.Layout.Place
import CallLint.Proofs.Layout.PostOrder

/-!
# What the nodes of a value are made of

In the layout of a value, every node has the characters that belong to a node of its kind and no
others, and it has all of them: no two neighbours are pieces of what could be read as one node.

* `Within.level`: where a part of a forest lets a `)` be a word, it is on the top level.
* `lexical_of_mem`: which characters stand in the ranges of an entry.
* `isChain_rootsFrom`: what is said of neighbours in a forest, of the numbers in its layout.
* `lexical_parse`: both for the layout of a value.
-/

namespace CallLint

open Text

namespace Layout

/-- The number is that of a `)` on the top level, where there is no call to close. -/
def Stray (l : Layout) (t : Text) (i : Nat) : Prop :=
  i ∈ l.roots ∧ ∃ e, l.entries[i]? = some e ∧ e.node.kind = .word ∧ e.source.cut t = [')']

/-- The number is that of the one node inside an address. -/
def InAddress (l : Layout) (t : Text) (i : Nat) : Prop :=
  ∃ (p : Nat) (d : Entry), l.entries[p]? = some d ∧ d.IsAddress t ∧ d.children = [i]

/-- Which characters stand in the ranges of an entry. -/
def Lexical (l : Layout) (t : Text) (i : Nat) (e : Entry) : Prop :=
  match e.node.kind with
  | .space => e.value = e.source ∧ e.source.cut t ≠ [] ∧ ∀ c ∈ e.source.cut t, isBlank c = true
  | .divider => e.value = e.source ∧ ∃ c, isDivider c = true ∧ e.source.cut t = [c]
  | .quoted => ∃ mark, isQuote mark = true ∧ t.CharAt e.source.start mark ∧
      (Units (· = mark) (e.value.cut t) ∨ Breaks (· = mark) (e.value.cut t))
  | .comment => ¬ ['*', '/'] <:+: e.value.cut t
  | .word => e.value = e.source ∧ (l.Stray t i ∨ l.InAddress t i ∨ e.source.cut t ≠ [] ∧
      (Units endsWord (e.source.cut t) ∨
        Breaks endsWord (e.source.cut t) ∧ e.source.stop = byteLength t))
  | .call => Units endsWord (e.value.cut t)

/-- What two entries say of each other when the second node follows the first one. -/
structure Neighbours (l : Layout) (t : Text) (i j : Nat) (d e : Entry) : Prop where
  space : d.node.kind = .space → e.node.kind ≠ .space
  word : d.node.kind = .word → e.node.kind = .word → l.Stray t i ∨ l.Stray t j
  call : d.node.kind = .word → e.node.kind = .call → l.Stray t i
  slash : d.node.kind = .divider → d.source.cut t = ['/'] → (e.source.cut t).head? ≠ some '*'

/-- The second node may follow the first one. -/
def MayMeet (l : Layout) (t : Text) (i j : Nat) : Prop :=
  ∃ d e, l.entries[i]? = some d ∧ l.entries[j]? = some e ∧ l.Neighbours t i j d e

end Layout

namespace Forest

variable {t before after name w : Text} {first i : Nat} {f g rest : Forest} {e : Entry}

/-! ## The characters of a node -/

/-- A part of a forest is inside a call, or it is on the level of the forest. -/
theorem Within.level (h : Within f before first g after) {nested : Bool} {behind : Text}
    (hf : f.Stands nested behind) :
    g.Stands true (after ++ behind) ∨
      g.Stands nested (after ++ behind) ∧
        ∀ base, ∀ i ∈ g.rootsFrom (base + first), i ∈ f.rootsFrom base := by
  induction h generalizing nested behind with
  | all f => exact .inr ⟨hf, fun _ _ hi => hi⟩
  | @afterLeaf part rest g before after first _ ih =>
    refine (ih hf.2).imp_right fun ⟨hg, hroots⟩ => ⟨hg, fun base i hi => ?_⟩
    refine List.mem_cons_of_mem _ (hroots _ i ?_)
    rwa [Nat.add_assoc base, Nat.add_assoc base]
  | inside _ ih =>
    refine .inl ?_
    have hg := (ih hf.2.1).elim id And.left
    simpa using hg
  | @afterCall name inside rest g closed before after first _ ih =>
    refine (ih hf.2.2.1).imp_right fun ⟨hg, hroots⟩ => ⟨hg, fun base i hi => ?_⟩
    refine List.mem_cons_of_mem _ (hroots _ i ?_)
    rwa [Nat.add_assoc base, Nat.add_assoc base]

/-- A word is one that is scanned off, or a `)` on the top level. -/
theorem stands_or_root (h : Within (parse t) before first (.leaf (.word w) rest) after) :
    (Leaf.word w).Stands (rest.text ++ after) ∨ w = [')'] ∧ first ∈ (parse t).layout.roots := by
  rcases h.level (stands_parse t) with hs | ⟨hs, hroots⟩
  · rw [List.append_nil] at hs
    obtain ⟨hs | ⟨hn, -⟩, -⟩ := hs
    · exact .inl hs
    · cases hn
  · rw [List.append_nil] at hs
    obtain ⟨hs | ⟨-, hw⟩, -⟩ := hs
    · exact .inl hs
    · refine .inr ⟨by simpa using hw, ?_⟩
      have hroot := hroots 0 first (by simp [rootsFrom, Leaf.wordCount])
      rwa [layout_eq]

theorem lexical_word (h : Within (parse t) before first (.leaf (.word w) rest) after) :
    (parse t).layout.Lexical t first ((Leaf.word w).entry first (byteLength before)) := by
  obtain ⟨ht, hholds, -⟩ := within_parse h
  obtain ⟨hown, -⟩ := hholds.leaf
  have hcut := (placed_of_mem hown).source.cut
  rw [Leaf.entry_node, Node.text_leaf, Leaf.text] at hcut
  refine ⟨rfl, ?_⟩
  rcases stands_or_root h with ⟨hne, hruns, -⟩ | ⟨rfl, hroot⟩
  · refine .inr (.inr ?_)
    rw [hcut]
    refine ⟨hne, hruns.imp And.left fun hbreaks => ⟨hbreaks.1, ?_⟩⟩
    rw [text_leaf, List.append_assoc, hbreaks.2, List.append_nil] at ht
    rw [Leaf.entry_source, ht, byteLength_append]
  · exact .inl ⟨hroot, _, hown, rfl, hcut⟩

theorem lexical_leaf {part : Leaf} (h : Within (parse t) before first (.leaf part rest) after) :
    (parse t).layout.Lexical t (first + part.wordCount)
      (part.entry first (byteLength before)) := by
  obtain ⟨ht, hholds, nested, hstands, -⟩ := within_parse h
  obtain ⟨hown, -⟩ := hholds.leaf
  have hplaced := placed_of_mem hown
  have hvalue := hplaced.value.cut
  have hsource := hplaced.source.cut
  rw [Leaf.entry_node] at hvalue hsource
  obtain hs | ⟨-, rfl⟩ := hstands
  · cases part with
    | space s =>
      refine ⟨rfl, ?_⟩
      rw [hsource, Node.text_leaf]
      exact ⟨hs.1, hs.2.1⟩
    | word w => exact lexical_word h
    | quoted mark body closed =>
      refine ⟨mark, hs.1, ⟨before, _, ht, rfl⟩, ?_⟩
      rw [hvalue]
      cases closed with
      | true => exact .inl hs.2
      | false => exact hs.2.2
    | comment body closed =>
      show ¬ ['*', '/'] <:+: _
      rw [hvalue]
      exact hs.1
    | divider mark =>
      refine ⟨rfl, mark, hs.1, ?_⟩
      rw [hsource, Node.text_leaf, Leaf.text]
    | address name body closed =>
      show Units endsWord _
      rw [hvalue]
      exact Token.units_of_isAddressName hs.1
  · exact lexical_word h

theorem lexical_call {inside : Forest} {closed : Bool}
    (h : Within (parse t) before first (.call name inside closed rest) after) :
    (parse t).layout.Lexical t (first + inside.size)
      (callEntry first (byteLength before) name inside closed) := by
  obtain ⟨-, hholds, nested, ⟨hname, -⟩, -⟩ := within_parse h
  have hvalue := (placed_of_mem hholds.call.1).value.cut
  show Units endsWord _
  rwa [hvalue]

/-- The one node inside an address is a word. -/
theorem lexical_inside_address {part : Leaf}
    (h : Within (parse t) before first (.leaf part rest) after) {j : Nat} (hj : j < part.wordCount)
    (he : (part.words (byteLength before))[j]? = some e) :
    (parse t).layout.Lexical t (first + j) e := by
  obtain ⟨-, hholds, -⟩ := within_parse h
  obtain ⟨hown, -⟩ := hholds.leaf
  cases part with
  | address name body closed =>
    have hbody : trim body ≠ [] := fun hnil => by simp [Leaf.wordCount, hnil] at hj
    simp only [Leaf.wordCount, if_neg hbody, Nat.lt_one_iff] at hj
    subst hj
    simp only [Leaf.words, if_neg hbody, List.getElem?_cons_zero] at he
    obtain rfl := Option.some.inj he
    exact ⟨rfl, .inr (.inl ⟨_, _, hown, isAddress_entry h first, by simp [Leaf.entry, hbody]⟩)⟩
  | _ => cases hj

/-- Which characters stand in the ranges of an entry in the layout of a value. -/
theorem lexical_of_mem (he : (parse t).layout.entries[i]? = some e) :
    (parse t).layout.Lexical t i e := by
  rcases exists_numbered_part he with
    ⟨before, first, part, rest, after, h, ⟨rfl, rfl⟩ | ⟨j, hj, rfl, hword⟩⟩ |
    ⟨before, first, name, inside, closed, rest, after, h, rfl, rfl⟩
  · exact lexical_leaf h
  · exact lexical_inside_address h hj hword
  · exact lexical_call h

/-! ## Neighbours -/

/-- The numbers of a forest are those of its nodes, in the same order. -/
theorem map_node_rootsFrom {l : Layout} {base pos : Nat} (h : l.Holds f base pos) :
    (f.rootsFrom base).map (fun i => l.entries[i]?.map Entry.node) = f.nodes.map some := by
  induction f generalizing base pos with
  | nil => rfl
  | leaf part rest ih =>
    obtain ⟨hown, -, hrest⟩ := h.leaf
    rw [rootsFrom, nodes, List.map_cons, List.map_cons, ih hrest, hown, Option.map_some,
      Leaf.entry_node]
  | call name inside closed rest _ ih =>
    obtain ⟨hown, -, hrest⟩ := h.call
    rw [rootsFrom, nodes, List.map_cons, List.map_cons, ih hrest, hown]
    rfl

/-- The node of a stray entry on the top level. -/
theorem stray_of_isStray (he : (parse t).layout.entries[i]? = some e)
    (hroot : i ∈ (parse t).layout.roots) (h : e.node.isStray = true) :
    (parse t).layout.Stray t i := by
  obtain ⟨hkind, htext⟩ := Node.isStray_iff.1 h
  exact ⟨hroot, e, he, hkind, (placed_of_mem he).source.cut.trans htext⟩

/-- What the nodes of two neighbours say of each other, their entries say. -/
theorem neighbours_of_mayMeet {j : Nat} {d : Entry} {nested : Bool}
    (hd : (parse t).layout.entries[i]? = some d) (he : (parse t).layout.entries[j]? = some e)
    (hmeet : d.node.MayMeet nested e.node)
    (hroots : nested = false → i ∈ (parse t).layout.roots ∧ j ∈ (parse t).layout.roots) :
    (parse t).layout.Neighbours t i j d e := by
  refine ⟨hmeet.space, fun hword hnext => ?_, fun hword hnext => ?_, fun hdivider htext => ?_⟩
  · obtain ⟨hnested, hstray⟩ := hmeet.word hword (.inl hnext)
    obtain ⟨hi, hj⟩ := hroots hnested
    exact hstray.imp (stray_of_isStray hd hi) (stray_of_isStray he hj)
  · obtain ⟨hnested, hstray | hstray⟩ := hmeet.word hword (.inr hnext)
    · exact stray_of_isStray hd (hroots hnested).1 hstray
    · rw [(Node.isStray_iff.1 hstray).1] at hnext
      cases hnext
  · rw [(placed_of_mem he).source.cut]
    exact hmeet.slash hdivider ((placed_of_mem hd).source.cut.symm.trans htext)

/-- The nodes of a forest that stands in a value may follow one another. -/
theorem isChain_rootsFrom {base pos : Nat} {nested : Bool}
    (hholds : (parse t).layout.Holds f base pos) (hf : f.Stands nested after)
    (hroots : nested = false → ∀ i ∈ f.rootsFrom base, i ∈ (parse t).layout.roots) :
    (f.rootsFrom base).IsChain ((parse t).layout.MayMeet t) := by
  have hchain : (f.nodes.map some).IsChain
      fun x y => ∃ m n, x = some m ∧ y = some n ∧ m.MayMeet nested n :=
    List.isChain_map_of_isChain some (fun m n h => ⟨m, n, rfl, rfl, h⟩) hf.isChain_nodes
  rw [← map_node_rootsFrom hholds, List.isChain_map] at hchain
  refine hchain.imp_of_mem_imp fun i j hi hj ⟨m, n, hm, hn, hmeet⟩ => ?_
  obtain ⟨d, hd, rfl⟩ := Option.map_eq_some_iff.1 hm
  obtain ⟨e, he, rfl⟩ := Option.map_eq_some_iff.1 hn
  exact ⟨d, e, hd, he, neighbours_of_mayMeet hd he hmeet fun h => ⟨hroots h i hi, hroots h j hj⟩⟩

theorem isChain_children (he : (parse t).layout.entries[i]? = some e) :
    e.children.IsChain ((parse t).layout.MayMeet t) := by
  rcases exists_part he with
    ⟨before, first, part, rest, after, h, ⟨-, rfl⟩ | hword⟩ |
    ⟨before, first, name, inside, closed, rest, after, h, -, rfl⟩
  · -- an address has one node inside it at most
    rw [Leaf.children_entry]
    rcases Nat.le_one_iff_eq_zero_or_eq_one.1 part.wordCount_le with hcount | hcount
    · rw [hcount]
      exact .nil
    · rw [hcount]
      exact .singleton _
  · rw [List.flatMap_eq_nil_iff.1 (Leaf.children_words _ _) e hword]
    exact .nil
  · obtain ⟨-, hholds, nested, -, hinside, -⟩ := within_parse h
    exact isChain_rootsFrom hholds.call.2.1 hinside (by simp)

end Forest

/-- In the layout of a value, every node is made of the characters that belong to its kind, and no
two neighbours are pieces of what could be read as one node. -/
theorem lexical_parse (t : Text) :
    (∀ (i : Nat) (e : Entry), (Forest.parse t).layout.entries[i]? = some e →
      (Forest.parse t).layout.Lexical t i e) ∧
    (Forest.parse t).layout.roots.IsChain ((Forest.parse t).layout.MayMeet t) ∧
    ∀ (i : Nat) (e : Entry), (Forest.parse t).layout.entries[i]? = some e →
      e.children.IsChain ((Forest.parse t).layout.MayMeet t) := by
  refine ⟨fun i e he => Forest.lexical_of_mem he, ?_, fun i e he => Forest.isChain_children he⟩
  have hholds := Layout.holds_layout (Forest.parse t)
  have hroots : (Forest.parse t).layout.roots = (Forest.parse t).rootsFrom 0 := by
    rw [Forest.layout_eq]
  rw [hroots]
  exact Forest.isChain_rootsFrom hholds (Forest.stands_parse t) fun _ i hi => by rwa [hroots]

end CallLint
