import CallLint.Proofs.Layout.Place
import CallLint.Proofs.Layout.Walk
import Mathlib.Data.List.Basic
import Mathlib.Logic.Relation

/-!
# The nodes inside a call

The nodes inside a call have the numbers right in front of the call's own, and reading the text
between its parentheses gives them again, at another place.

* `reach_rootsFrom_iff`: the nodes at any depth of a forest are those with the numbers of its
  entries.
* `parse_inside_call`: reading the inside of a call gives the nodes inside the call.
* `parse_cut_inner`: what this says of the layout of a value and of what is found in it.
-/

namespace CallLint

open Text

namespace Layout

/-- The second number is that of a node directly inside the first. -/
def Child (l : Layout) (i j : Nat) : Prop := ∃ e, l.entries[i]? = some e ∧ j ∈ e.children

/-- The second number is that of a node inside the first, at any depth. -/
def Inside (l : Layout) : Nat → Nat → Prop := Relation.TransGen l.Child

/-- The second number is that of the first node itself, or of one inside it. -/
def Reach (l : Layout) : Nat → Nat → Prop := Relation.ReflTransGen l.Child

variable {l : Layout} {base pos : Nat}

theorem child_iff {i j : Nat} {e : Entry} (h : l.entries[i]? = some e) :
    l.Child i j ↔ j ∈ e.children := by
  constructor
  · rintro ⟨e', he', hj⟩
    rw [h] at he'
    rwa [Option.some.inj he']
  · intro hj
    exact ⟨e, h, hj⟩

theorem reach_iff {i j : Nat} {e : Entry} (h : l.entries[i]? = some e) :
    l.Reach i j ↔ j = i ∨ ∃ k ∈ e.children, l.Reach k j := by
  rw [Reach, Relation.ReflTransGen.cases_head_iff]
  simp only [child_iff h, eq_comm]

theorem inside_iff {i j : Nat} {e : Entry} (h : l.entries[i]? = some e) :
    l.Inside i j ↔ ∃ k ∈ e.children, l.Reach k j := by
  rw [Inside, Relation.TransGen.head'_iff]
  simp only [child_iff h, Reach]

theorem reach_leaf_iff {part : Leaf} {rest : Forest} (h : l.Holds (.leaf part rest) base pos)
    {j : Nat} :
    l.Reach (base + part.wordCount) j ↔ base ≤ j ∧ j < base + part.wordCount + 1 := by
  obtain ⟨hown, hwords, -⟩ := h.leaf
  rw [reach_iff hown]
  cases part with
  | address name body closed =>
    by_cases hbody : trim body = []
    · simp only [Leaf.entry, Leaf.wordCount, hbody, if_true, List.not_mem_nil, false_and,
        exists_false, or_false]
      omega
    · have hw := hwords 0 (by simp [Leaf.wordCount, hbody])
      simp only [Leaf.words, hbody, if_false, Nat.add_zero] at hw
      have hbase : l.Reach base j ↔ j = base := by
        rw [reach_iff hw]
        simp [Entry.ofLeaf]
      simp only [Leaf.entry, Leaf.wordCount, hbody, if_false, List.mem_singleton,
        exists_eq_left, hbase]
      omega
  | _ =>
    simp only [Leaf.entry, Entry.ofLeaf, Leaf.wordCount, List.not_mem_nil, false_and,
      exists_false, or_false]
    omega

/-- The nodes at any depth of a forest are those with the numbers of its entries. -/
theorem reach_rootsFrom_iff {f : Forest} (h : l.Holds f base pos) {j : Nat} :
    (∃ i ∈ f.rootsFrom base, l.Reach i j) ↔ base ≤ j ∧ j < base + f.size := by
  induction f generalizing base pos with
  | nil =>
    simp only [Forest.rootsFrom, Forest.size, List.not_mem_nil, false_and, exists_false,
      false_iff]
    omega
  | leaf part rest ih =>
    rw [Forest.rootsFrom, Forest.size, List.exists_mem_cons_iff, ih h.leaf.2.2, reach_leaf_iff h]
    omega
  | call name inside closed rest ihInside ih =>
    obtain ⟨hown, hinside, hrest⟩ := h.call
    rw [Forest.rootsFrom, Forest.size, List.exists_mem_cons_iff, ih hrest, reach_iff hown,
      Forest.callEntry, ihInside hinside]
    omega

end Layout

/-- Reading the text between the parentheses of a call gives the nodes inside the call. -/
theorem Forest.parse_inside_call {t before after name : Text} {first : Nat} {closed : Bool}
    {inside rest : Forest}
    (h : Within (parse t) before first (.call name inside closed rest) after) :
    parse inside.text = inside := by
  obtain ⟨-, -, nested, hstands⟩ := within_parse h
  exact parse_of_stands hstands.alone

/-- What reading the text between the parentheses of a call gives, in the layout of the value: the
entries with the numbers in front of the call's own are those of the text, moved. They are the
nodes inside the call, and what is found in the text is what is found in them. -/
theorem parse_cut_inner {t : Text} {n : Nat} {e : Entry}
    (he : (Forest.parse t).layout.entries[n]? = some e) (hcall : e.node.isCall = true)
    (ha : ¬ e.IsAddress t) :
    ∃ k, (Forest.parse (e.inner.cut t)).layout.entries.size = k ∧ k ≤ n ∧
      (∀ j, (Forest.parse t).layout.Inside n j ↔ n - k ≤ j ∧ j < n) ∧
      (∀ j < k, (Forest.parse t).layout.entries[n - k + j]? =
        (Forest.parse (e.inner.cut t)).layout.entries[j]?.map
          (Entry.shift e.inner.start (n - k))) ∧
      e.children = (Forest.parse (e.inner.cut t)).layout.roots.map (· + (n - k)) ∧
      ∀ (c : Config) (property : Text),
        c.lint property t = (Forest.parse t).layout.walk.flatMap
          (c.found property (Forest.parse t).layout) ∧
        c.lint property (e.inner.cut t) =
          ((Forest.parse t).layout.walk.filter fun j => n - k ≤ j ∧ j < n).flatMap
            (c.found property (Forest.parse t).layout) := by
  obtain ⟨before, first, name, inside, closed, rest, after, h, rfl, rfl⟩ :=
    Forest.exists_call he hcall ha
  have hcut : (Forest.callEntry first (byteLength before) name inside closed).inner.cut t =
      inside.text := (covers_innerSpan (Forest.text_eq_of_call h)).cut
  have hparse : Forest.parse
      ((Forest.callEntry first (byteLength before) name inside closed).inner.cut t) = inside := by
    rw [hcut, Forest.parse_inside_call h]
  have hsize : inside.layout.entries.size = inside.size := by simp [Forest.layout_eq]
  obtain ⟨-, hholds, -⟩ := Forest.within_parse h
  obtain ⟨hown, hinside, -⟩ := hholds.call
  refine ⟨inside.size, by rw [hparse, hsize], Nat.le_add_left _ _, ?_⟩
  rw [Nat.add_sub_cancel, hparse]
  refine ⟨fun j => ?_, fun j hj => ?_, ?_, fun c property => ⟨c.lint_eq_walk property t, ?_⟩⟩
  · rw [Layout.inside_iff hown]
    exact Layout.reach_rootsFrom_iff hinside
  · rw [hinside.getElem? hj]
    have hshift := inside.entriesFrom_shift 0 0 (byteLength before + byteLength name + 1) first
    rw [Nat.zero_add, Nat.zero_add] at hshift
    rw [hshift, Forest.layout_eq]
    simp [Forest.callEntry, Leaf.innerSpan]
  · have hshift := inside.rootsFrom_shift 0 first
    rw [Nat.zero_add] at hshift
    simp [Forest.callEntry, hshift, Forest.layout_eq]
  · have hfilter := Forest.callNumbers_filter h.inside_call 0
    rw [Nat.zero_add] at hfilter
    have hpred : (fun j => decide (first ≤ j ∧ j < first + inside.size)) =
        Forest.inRange first inside.size := by
      funext j
      simp [Forest.inRange]
    rw [hpred, Layout.walk_layout, hfilter, Config.flatMap_callNumbers hinside,
      Config.lint_eq_calls, hparse]

/-- An unclosed call with another one inside it, behind a word and white space. -/
theorem parse_cut_inner_of_unclosed :
    (Forest.parse "a é(ü, g(1)".toList).layout.entries[7]? =
        some (Forest.callEntry 2 2 ['é'] (Forest.parse "ü, g(1)".toList) false) ∧
      ∀ j < 5, (Forest.parse "a é(ü, g(1)".toList).layout.entries[2 + j]? =
        (Forest.parse "ü, g(1)".toList).layout.entries[j]?.map (Entry.shift 5 2) := by
  have he : (Forest.parse "a é(ü, g(1)".toList).layout.entries[7]? =
      some (Forest.callEntry 2 2 ['é'] (Forest.parse "ü, g(1)".toList) false) := by decide +kernel
  have hcut : (Forest.callEntry 2 2 ['é'] (Forest.parse "ü, g(1)".toList) false).inner.cut
      "a é(ü, g(1)".toList = "ü, g(1)".toList := by decide +kernel
  obtain ⟨k, hk, -, -, hentries, -⟩ := parse_cut_inner he rfl (by decide +kernel)
  rw [hcut] at hk hentries
  obtain rfl : 5 = k := by rw [← hk]; decide +kernel
  exact ⟨he, hentries⟩

end CallLint
