import CallLint.Proofs.Layout.Walk
import Mathlib.Data.List.Nodup

/-!
# The calls of a layout in the order of the text

The walk through a layout knows the numbers of the top level and of the children only. It still
meets every entry that is a call, each once, and from the front of the text to its end.

* `pairwise_callEntries`: the calls of a forest, each before those inside it, begin one after the
  other.
* `filter_isCall_perm`: they are all the entries that are calls.
* `calls_eq_callsByStart`: the walk meets the entries that are calls, sorted by where they begin.
-/

namespace CallLint

open Text

/-- The entries that are calls, sorted by the byte at which they begin. -/
def Layout.callsByStart (l : Layout) : List Entry :=
  (l.entries.toList.filter (·.node.isCall)).mergeSort fun d e => d.source.start ≤ e.source.start

theorem Leaf.byteLength_pos_of_isCall {part : Leaf} (h : (Node.leaf part).isCall = true) :
    0 < byteLength part.text := by
  cases part with
  | address name body closed =>
    rw [byteLength_address]
    omega
  | _ => cases h

namespace Forest

/-- The entries of the calls of a forest, each before those of the calls inside it. -/
def callEntries (base pos : Nat) : Forest → List Entry
  | .nil => []
  | .leaf part rest =>
    (if (Node.leaf part).isCall then [part.entry base pos] else []) ++
      rest.callEntries (base + part.wordCount + 1) (pos + byteLength part.text)
  | .call name inside closed rest =>
    let own := callEntry base pos name inside closed
    own :: (inside.callEntries base own.inner.start ++
      rest.callEntries (base + inside.size + 1) own.source.stop)

theorem map_node_callEntries (f : Forest) (base pos : Nat) :
    (f.callEntries base pos).map Entry.node = f.calls := by
  induction f generalizing base pos with
  | nil => rfl
  | leaf part rest ih =>
    rw [callEntries, List.map_append, ih, calls_leaf]
    split
    · simp
    · rfl
  | call name inside closed rest ihInside ih =>
    rw [callEntries, List.map_cons, List.map_append, ihInside, ih, calls_call]
    rfl

/-- The calls of a forest begin within its text. -/
theorem start_mem_callEntries {f : Forest} {base pos : Nat} :
    ∀ e ∈ f.callEntries base pos,
      pos ≤ e.source.start ∧ e.source.start < pos + byteLength f.text := by
  induction f generalizing base pos with
  | nil =>
    intro e he
    cases he
  | leaf part rest ih =>
    intro e he
    rw [callEntries, List.mem_append] at he
    rw [text_leaf, byteLength_append]
    rcases he with he | he
    · split at he
      next hcall =>
        obtain rfl := List.mem_singleton.1 he
        have hpos := Leaf.byteLength_pos_of_isCall hcall
        simp only [Leaf.entry_source]
        omega
      next => cases he
    · have hrest := ih e he
      omega
  | call name inside closed rest ihInside ih =>
    intro e he
    rw [callEntries, List.mem_cons, List.mem_append] at he
    rw [byteLength_text_call]
    rcases he with rfl | he | he
    · simp only [callEntry]
      omega
    · have hinside := ihInside e he
      simp only [callEntry, Leaf.innerSpan] at hinside
      omega
    · have hrest := ih e he
      simp only [callEntry, Leaf.innerSpan] at hrest
      omega

/-- The calls of a forest, each before those inside it, begin one after the other. -/
theorem pairwise_callEntries (f : Forest) (base pos : Nat) :
    (f.callEntries base pos).Pairwise fun d e => d.source.start < e.source.start := by
  induction f generalizing base pos with
  | nil => exact .nil
  | leaf part rest ih =>
    rw [callEntries, List.pairwise_append]
    refine ⟨?_, ih _ _, fun d hd e he => ?_⟩
    · split
      · exact List.pairwise_singleton _ _
      · exact .nil
    · split at hd
      next hcall =>
        obtain rfl := List.mem_singleton.1 hd
        have hpos := Leaf.byteLength_pos_of_isCall hcall
        have hrest := start_mem_callEntries e he
        simp only [Leaf.entry_source]
        omega
      next => cases hd
  | call name inside closed rest ihInside ih =>
    rw [callEntries, List.pairwise_cons, List.pairwise_append]
    refine ⟨fun e he => ?_, ihInside _ _, ih _ _, fun d hd e he => ?_⟩
    · rcases List.mem_append.1 he with he | he
      · have hinside := start_mem_callEntries e he
        simp only [callEntry, Leaf.innerSpan] at hinside ⊢
        omega
      · have hrest := start_mem_callEntries e he
        simp only [callEntry, Leaf.innerSpan] at hrest ⊢
        omega
    · have hinside := start_mem_callEntries d hd
      have hrest := start_mem_callEntries e he
      simp only [callEntry, Leaf.innerSpan] at hinside hrest
      omega

/-- The entries of a forest that are calls. A call comes behind the calls inside it there, and in
front of them here. -/
theorem filter_isCall_perm (f : Forest) (base pos : Nat) :
    ((f.entriesFrom base pos).filter (·.node.isCall)).Perm (f.callEntries base pos) := by
  induction f generalizing base pos with
  | nil => exact .refl _
  | leaf part rest ih =>
    have hwords : (part.words pos).filter (·.node.isCall) = [] := by
      rw [List.filter_eq_nil_iff]
      intro e he
      simp [Leaf.isCall_of_mem_words he]
    rw [entriesFrom, callEntries, List.filter_append, hwords, List.nil_append, List.filter_cons,
      Leaf.entry_node]
    split
    · exact (ih _ _).cons _
    · exact ih _ _
  | call name inside closed rest ihInside ih =>
    rw [entriesFrom, callEntries, List.filter_append, List.filter_cons_of_pos rfl]
    exact List.perm_middle.trans (((ihInside _ _).append (ih _ _)).cons _)

end Forest

namespace Layout

/-- The numbers of the calls of a forest are those of the entries of its calls. -/
theorem filterMap_callNumbers {l : Layout} {f : Forest} {base pos : Nat} (h : l.Holds f base pos) :
    (f.callNumbers base).filterMap (l.entries[·]?) = f.callEntries base pos := by
  induction f generalizing base pos with
  | nil => rfl
  | leaf part rest ih =>
    obtain ⟨hown, -, hrest⟩ := h.leaf
    rw [Forest.callNumbers, Forest.callEntries, List.filterMap_append, ih hrest]
    split
    · simp [hown]
    · rfl
  | call name inside closed rest ihInside ih =>
    obtain ⟨hown, hinside, hrest⟩ := h.call
    rw [Forest.callNumbers, Forest.callEntries, List.filterMap_cons_some hown,
      List.filterMap_append, ihInside hinside, ih hrest]
    rfl

theorem calls_layout (f : Forest) : f.layout.calls = f.callEntries 0 0 := by
  rw [calls, walk_layout, filterMap_callNumbers (holds_layout f)]

/-- The walk through the layout of a forest meets the entries that are calls, sorted by where they
begin. -/
theorem calls_eq_callsByStart (f : Forest) : f.layout.calls = f.layout.callsByStart := by
  have hstrict := f.pairwise_callEntries 0 0
  have hperm : f.layout.callsByStart.Perm (f.callEntries 0 0) := by
    refine (List.mergeSort_perm _ _).trans ?_
    rw [Forest.layout_eq]
    exact f.filter_isCall_perm 0 0
  have hsorted : f.layout.callsByStart.Pairwise fun d e => d.source.start ≤ e.source.start := by
    have hle : f.layout.callsByStart.Pairwise fun d e =>
        decide (d.source.start ≤ e.source.start) = true := by
      refine List.pairwise_mergeSort (fun a b c hab hbc => ?_) (fun a b => ?_) _
      · simpa using Nat.le_trans (of_decide_eq_true hab) (of_decide_eq_true hbc)
      · simpa using Nat.le_total a.source.start b.source.start
    simpa only [decide_eq_true_eq] using hle
  have hweak : (f.callEntries 0 0).Pairwise fun d e => d.source.start ≤ e.source.start :=
    hstrict.imp Nat.le_of_lt
  have hstarts : ((f.callEntries 0 0).map (·.source.start)).Nodup := by
    rw [List.Nodup, List.pairwise_map]
    exact hstrict.imp Nat.ne_of_lt
  rw [calls_layout]
  refine List.Perm.eq_of_pairwise (fun a b ha hb hab hba => ?_) hweak hsorted hperm.symm
  exact List.inj_on_of_nodup_map hstarts ha (hperm.mem_iff.1 hb) (Nat.le_antisymm hab hba)

theorem pairwise_callsByStart (f : Forest) :
    f.layout.callsByStart.Pairwise fun d e => d.source.start < e.source.start := by
  rw [← calls_eq_callsByStart, calls_layout]
  exact f.pairwise_callEntries 0 0

end Layout

end CallLint
