import CallLint.Proofs.Layout.Order
import CallLint.Proofs.Layout.Subtree

/-!
# A layout is a forest in post-order

The numbers of a layout are given out when nodes end, and the children of a call are lists of
numbers. Nothing in the type of a layout keeps such lists from sharing a number or from running in
a circle; that they do not is an invariant of how a layout is drawn up.

* `numbers_perm`: every number stands once on the top level or among the children of a call.
* `visits_rootsFrom`: the loop of the walk comes to its end, and meets the calls of the forest.
* `inside_or_before`: of two nodes, the later one holds the earlier one or begins behind it.
* `postOrder_parse`: what this says of the layout of a value and of the walk through it.
-/

namespace CallLint

open Text

namespace Forest

/-! ## The numbers of a forest -/

theorem mem_rootsFrom {f : Forest} {base i : Nat} (h : i ∈ f.rootsFrom base) :
    base ≤ i ∧ i < base + f.size := by
  induction f generalizing base with
  | nil => cases h
  | leaf part rest ih =>
    rw [size]
    rcases List.mem_cons.1 h with rfl | h
    · omega
    · have := ih h
      omega
  | call name inside closed rest _ ih =>
    rw [size]
    rcases List.mem_cons.1 h with rfl | h
    · omega
    · have := ih h
      omega

theorem pairwise_rootsFrom (f : Forest) (base : Nat) : (f.rootsFrom base).Pairwise (· < ·) := by
  induction f generalizing base with
  | nil => exact .nil
  | leaf part rest ih =>
    refine List.pairwise_cons.2 ⟨fun i hi => ?_, ih _⟩
    have := mem_rootsFrom hi
    omega
  | call name inside closed rest _ ih =>
    refine List.pairwise_cons.2 ⟨fun i hi => ?_, ih _⟩
    have := mem_rootsFrom hi
    omega

end Forest

/-- Inside a leaf there are the words in front of it. -/
theorem Leaf.children_entry (base pos : Nat) (part : Leaf) :
    (part.entry base pos).children = List.range' base part.wordCount := by
  cases part with
  | address name body closed =>
    simp only [entry, wordCount]
    split <;> rfl
  | _ => rfl

theorem Leaf.children_words (pos : Nat) (part : Leaf) :
    (part.words pos).flatMap Entry.children = [] := by
  cases part with
  | address name body closed =>
    simp only [words]
    split <;> rfl
  | _ => rfl

theorem range'_split (base m n : Nat) :
    List.range' base (m + 1 + n) =
      List.range' base m ++ (base + m) :: List.range' (base + m + 1) n := by
  rw [← List.range'_append_1, ← List.range'_append_1, List.append_assoc]
  rfl

/-- Every number of a forest stands once on its top level or inside one of its nodes. -/
theorem Forest.numbers_perm (f : Forest) (base pos : Nat) :
    (f.rootsFrom base ++ (f.entriesFrom base pos).flatMap Entry.children).Perm
      (List.range' base f.size) := by
  induction f generalizing base pos with
  | nil => exact .refl _
  | leaf part rest ih =>
    rw [rootsFrom, entriesFrom, size, range'_split, List.flatMap_append, List.flatMap_cons,
      Leaf.children_words, Leaf.children_entry, List.nil_append, List.perm_iff_count]
    intro i
    have hrest := (ih (base + part.wordCount + 1) (pos + byteLength part.text)).count_eq i
    simp only [List.count_append, List.cons_append, List.count_cons] at hrest ⊢
    omega
  | call name inside closed rest ihInside ih =>
    rw [rootsFrom, entriesFrom, size, range'_split, List.flatMap_append, List.flatMap_cons,
      List.perm_iff_count]
    intro i
    have hinside := (ihInside base (callEntry base pos name inside closed).inner.start).count_eq i
    have hrest := (ih (base + inside.size + 1)
      (callEntry base pos name inside closed).source.stop).count_eq i
    simp only [callEntry] at hinside hrest ⊢
    simp only [List.count_append, List.cons_append, List.count_cons] at hinside hrest ⊢
    omega

namespace Layout

/-! ## The walk -/

/-- The loop of the walk, from the numbers still to be visited: it ends, every number that it takes
is that of an entry, and it meets the calls of the given numbers. -/
inductive Visits (entries : Array Entry) : List Nat → List Nat → Prop
  | done : Visits entries [] []
  | call {i : Nat} {e : Entry} {pending met : List Nat} (h : entries[i]? = some e)
      (hcall : e.node.isCall = true) (rest : Visits entries (e.children ++ pending) met) :
      Visits entries (i :: pending) (i :: met)
  | other {i : Nat} {e : Entry} {pending met : List Nat} (h : entries[i]? = some e)
      (hcall : e.node.isCall = false) (rest : Visits entries pending met) :
      Visits entries (i :: pending) met

theorem Visits.call_of_mem {entries : Array Entry} {pending met : List Nat}
    (h : Visits entries pending met) {i : Nat} (hi : i ∈ met) :
    ∃ e, entries[i]? = some e ∧ e.node.isCall = true := by
  induction h with
  | done => cases hi
  | call h hcall _ ih =>
    rcases List.mem_cons.1 hi with rfl | hi
    · exact ⟨_, h, hcall⟩
    · exact ih hi
  | other _ _ _ ih => exact ih hi

variable {l : Layout} {f : Forest} {base pos : Nat}

/-- The words in front of a leaf are no calls. -/
theorem visits_range' {n : Nat} (h : ∀ i < n, ∃ e, l.entries[base + i]? = some e ∧
      e.node.isCall = false) {pending met : List Nat} (hrest : Visits l.entries pending met) :
    Visits l.entries (List.range' base n ++ pending) met := by
  induction n generalizing base with
  | zero => exact hrest
  | succ n ih =>
    obtain ⟨e, he, hcall⟩ := h 0 (by omega)
    refine .other he hcall (ih fun i hi => ?_)
    have hnext := h (i + 1) (by omega)
    rwa [Nat.add_comm i 1, ← Nat.add_assoc] at hnext

/-- Once the nodes of a forest are taken, the loop has met the calls of the forest, and goes on with
the numbers behind them. -/
theorem visits_rootsFrom (h : l.Holds f base pos) {pending met : List Nat}
    (hrest : Visits l.entries pending met) :
    Visits l.entries (f.rootsFrom base ++ pending) (f.callNumbers base ++ met) := by
  induction f generalizing base pos pending met with
  | nil => exact hrest
  | leaf part rest ih =>
    obtain ⟨hown, hwords, hholds⟩ := h.leaf
    have hlater := ih hholds hrest
    rw [Forest.callNumbers]
    split
    next hcall =>
      refine .call hown (by rwa [Leaf.entry_node]) ?_
      rw [Leaf.children_entry]
      refine visits_range' (fun i hi => ?_) hlater
      rw [hwords i hi]
      have hlt : i < (part.words pos).length := by rwa [Leaf.length_words]
      exact ⟨_, List.getElem?_eq_getElem hlt, Leaf.isCall_of_mem_words (List.getElem_mem hlt)⟩
    next hcall =>
      exact .other hown (by rw [Leaf.entry_node]; exact Bool.eq_false_iff.2 hcall) hlater
  | call name inside closed rest ihInside ih =>
    obtain ⟨hown, hinside, hholds⟩ := h.call
    have hlater := ihInside hinside (ih hholds hrest)
    rw [Forest.callNumbers, List.cons_append, List.append_assoc]
    exact .call hown rfl hlater

theorem visits_walk (f : Forest) : Visits f.layout.entries f.layout.roots f.layout.walk := by
  have h := visits_rootsFrom (holds_layout f) .done
  rw [List.append_nil, List.append_nil] at h
  rwa [walk_layout, show f.layout.roots = f.rootsFrom 0 by rw [Forest.layout_eq]]

/-- The walk meets the number of every call. -/
theorem mem_walk_iff (f : Forest) (i : Nat) :
    i ∈ f.layout.walk ↔ ∃ e, f.layout.entries[i]? = some e ∧ e.node.isCall = true := by
  refine ⟨(visits_walk f).call_of_mem, ?_⟩
  rintro ⟨e, he, hcall⟩
  rw [walk_layout]
  rcases Forest.exists_part he with
    ⟨before, first, part, rest, after, hpart, ⟨rfl, rfl⟩ | hword⟩ |
    ⟨before, first, name, inside, closed, rest, after, hpart, rfl, rfl⟩
  · have hfilter := Forest.callNumbers_filter hpart 0
    rw [Leaf.entry_node] at hcall
    rw [Nat.zero_add, Forest.callNumbers, if_pos hcall] at hfilter
    exact List.mem_of_mem_filter (hfilter ▸ List.mem_append_left _ (List.mem_singleton_self _))
  · rw [Leaf.isCall_of_mem_words hword] at hcall
    cases hcall
  · have hfilter := Forest.callNumbers_filter hpart 0
    rw [Nat.zero_add, Forest.callNumbers] at hfilter
    exact List.mem_of_mem_filter (hfilter ▸ List.mem_cons_self)

/-- The walk meets the calls in the order in which they begin. -/
theorem pairwise_walk (f : Forest) :
    f.layout.walk.Pairwise fun i j => ∃ d e, f.layout.entries[i]? = some d ∧
      f.layout.entries[j]? = some e ∧ d.source.start < e.source.start := by
  have hstarts := f.pairwise_callEntries 0 0
  rw [← calls_layout, calls, List.pairwise_filterMap] at hstarts
  refine hstarts.imp_of_mem fun {i j} hi hj hij => ?_
  obtain ⟨d, hd, -⟩ := (mem_walk_iff f i).1 hi
  obtain ⟨e, he, -⟩ := (mem_walk_iff f j).1 hj
  exact ⟨d, e, hd, he, hij d hd e he⟩

end Layout

/-! ## Where the nodes stand -/

theorem Leaf.source_of_mem_words (base : Nat) {pos : Nat} {part : Leaf} {e : Entry}
    (h : e ∈ part.words pos) :
    (part.entry base pos).inner.start ≤ e.source.start ∧
      e.source.stop ≤ (part.entry base pos).inner.stop := by
  cases part with
  | address name body closed =>
    simp only [words] at h
    split at h
    · cases h
    · obtain rfl := List.mem_singleton.1 h
      obtain ⟨front, back, hbody, htrim, -⟩ := exists_trim body
      have hlength := congrArg byteLength hbody
      have hstart := congrArg byteLength htrim
      simp only [byteLength_append] at hlength hstart
      simp only [Entry.ofLeaf, entry, innerSpan, trimSpan]
      omega
  | _ => cases h

/-- The text between the parentheses of an address lies within the address. -/
theorem Leaf.inner_entry (base pos : Nat) {part : Leaf} (h : (Node.leaf part).isCall = true) :
    pos ≤ (part.entry base pos).inner.start ∧
      (part.entry base pos).inner.stop ≤ pos + byteLength part.text := by
  cases part with
  | address name body closed =>
    rw [byteLength_address]
    simp only [entry, innerSpan]
    omega
  | _ => cases h

theorem Leaf.wordCount_le (part : Leaf) : part.wordCount ≤ 1 := by
  cases part with
  | address name body closed =>
    simp only [wordCount]
    split <;> decide
  | _ => exact Nat.zero_le 1

theorem Leaf.isCall_of_wordCount_pos {part : Leaf} (h : 0 < part.wordCount) :
    (Node.leaf part).isCall = true := by
  cases part with
  | address name body closed => rfl
  | _ => cases h

/-- The entries of a forest stand within its text. -/
theorem Forest.source_of_mem {f : Forest} {base pos : Nat} :
    ∀ e ∈ f.entriesFrom base pos,
      pos ≤ e.source.start ∧ e.source.stop ≤ pos + byteLength f.text := by
  induction f generalizing base pos with
  | nil =>
    intro e he
    cases he
  | leaf part rest ih =>
    intro e he
    rw [text_leaf, byteLength_append]
    rw [entriesFrom, List.mem_append, List.mem_cons] at he
    rcases he with he | rfl | he
    · have hlength := List.length_pos_of_mem he
      rw [Leaf.length_words] at hlength
      have hinner := Leaf.inner_entry base pos
        (Leaf.isCall_of_wordCount_pos hlength)
      have hword := Leaf.source_of_mem_words base he
      omega
    · rw [Leaf.entry_source]
      dsimp only
      omega
    · have hrest := ih e he
      omega
  | call name inside closed rest ihInside ih =>
    intro e he
    rw [byteLength_text_call]
    rw [entriesFrom, List.mem_append, List.mem_cons] at he
    rcases he with he | rfl | he
    · have hinside := ihInside e he
      simp only [callEntry, Leaf.innerSpan] at hinside
      omega
    · simp only [callEntry, Leaf.innerSpan]
      omega
    · have hrest := ih e he
      simp only [callEntry, Leaf.innerSpan] at hrest
      omega

namespace Layout

variable {l : Layout} {f : Forest} {base pos : Nat}

theorem Holds.mem (h : l.Holds f base pos) {i : Nat} {e : Entry} (he : l.entries[i]? = some e)
    (hlo : base ≤ i) (hhi : i < base + f.size) : e ∈ f.entriesFrom base pos := by
  obtain ⟨j, rfl⟩ := Nat.exists_eq_add_of_le hlo
  rw [h.getElem? (by omega)] at he
  exact List.mem_of_getElem? he

theorem Holds.source (h : l.Holds f base pos) {i : Nat} {e : Entry}
    (he : l.entries[i]? = some e) (hlo : base ≤ i) (hhi : i < base + f.size) :
    pos ≤ e.source.start ∧ e.source.stop ≤ pos + byteLength f.text :=
  Forest.source_of_mem e (h.mem he hlo hhi)

theorem Holds.first_leaf {part : Leaf} {rest : Forest} (h : l.Holds (.leaf part rest) base pos) :
    l.Holds (.leaf part .nil) base pos := by
  obtain ⟨front, back, h, hfront⟩ := h
  refine ⟨front, rest.entriesFrom (base + part.wordCount + 1) (pos + byteLength part.text) ++ back,
    ?_, hfront⟩
  rw [h]
  simp [Forest.entriesFrom]

theorem Holds.first_call {name : Text} {inside rest : Forest} {closed : Bool}
    (h : l.Holds (.call name inside closed rest) base pos) :
    l.Holds (.call name inside closed .nil) base pos := by
  obtain ⟨front, back, h, hfront⟩ := h
  refine ⟨front, rest.entriesFrom (base + inside.size + 1)
    (Forest.callEntry base pos name inside closed).source.stop ++ back, ?_, hfront⟩
  rw [h]
  simp [Forest.entriesFrom]

/-- The nodes inside a leaf are the words in front of it. -/
theorem inside_leaf_iff {part : Leaf} {rest : Forest} (h : l.Holds (.leaf part rest) base pos)
    {j : Nat} : l.Inside (base + part.wordCount) j ↔ base ≤ j ∧ j < base + part.wordCount := by
  obtain ⟨hown, hwords, -⟩ := h.leaf
  have hreach : ∀ k ∈ List.range' base part.wordCount, l.Reach k j ↔ j = k := by
    intro k hk
    obtain ⟨hlo, hhi⟩ := List.mem_range'_1.1 hk
    obtain ⟨i, rfl⟩ := Nat.exists_eq_add_of_le hlo
    have hlt : i < (part.words pos).length := by
      rw [Leaf.length_words]
      omega
    have hword := (hwords i (by omega)).trans (List.getElem?_eq_getElem hlt)
    have hnone : (part.words pos)[i].children = [] :=
      List.flatMap_eq_nil_iff.1 (part.children_words pos) _ (List.getElem_mem hlt)
    rw [reach_iff hword, hnone]
    simp
  rw [inside_iff hown, Leaf.children_entry]
  constructor
  · rintro ⟨k, hk, hj⟩
    obtain rfl := (hreach k hk).1 hj
    exact List.mem_range'_1.1 hk
  · intro hj
    have hmem := List.mem_range'_1.2 hj
    exact ⟨j, hmem, (hreach j hmem).2 rfl⟩

theorem inside_call_iff {name : Text} {inside rest : Forest} {closed : Bool}
    (h : l.Holds (.call name inside closed rest) base pos) {j : Nat} :
    l.Inside (base + inside.size) j ↔ base ≤ j ∧ j < base + inside.size := by
  obtain ⟨hown, hinside, -⟩ := h.call
  rw [inside_iff hown]
  exact reach_rootsFrom_iff hinside

/-- Of two nodes, the later one holds the earlier one or begins behind it. -/
theorem inside_or_before (h : l.Holds f base pos) {i j : Nat} {d e : Entry}
    (hd : l.entries[i]? = some d) (he : l.entries[j]? = some e) (hlo : base ≤ i) (hij : i < j)
    (hhi : j < base + f.size) : l.Inside j i ∨ d.source.stop ≤ e.source.start := by
  -- either both are in the first node, or both behind it, or it is between them
  induction f generalizing base pos with
  | nil =>
    rw [Forest.size] at hhi
    omega
  | leaf part rest ih =>
    obtain ⟨-, -, hrest⟩ := h.leaf
    have hwords := part.wordCount_le
    rw [Forest.size] at hhi
    rcases Nat.lt_trichotomy j (base + part.wordCount) with hj | rfl | hj
    · omega
    · exact .inl ((inside_leaf_iff h).2 ⟨hlo, hij⟩)
    · by_cases hi : i ≤ base + part.wordCount
      · have hfront := h.first_leaf.source hd hlo (by simp only [Forest.size]; omega)
        have hbehind := hrest.source he (by omega) (by omega)
        rw [Forest.text_leaf, byteLength_append] at hfront
        exact .inr (Nat.le_trans hfront.2 hbehind.1)
      · exact ih hrest (by omega) (by omega)
  | call name inside closed rest ihInside ih =>
    obtain ⟨-, hinside, hrest⟩ := h.call
    rw [Forest.size] at hhi
    rcases Nat.lt_trichotomy j (base + inside.size) with hj | rfl | hj
    · exact ihInside hinside hlo hj
    · exact .inl ((inside_call_iff h).2 ⟨hlo, hij⟩)
    · by_cases hi : i ≤ base + inside.size
      · have hfront := h.first_call.source hd hlo (by simp only [Forest.size]; omega)
        have hbehind := hrest.source he (by omega) (by omega)
        rw [Forest.byteLength_text_call, Forest.text_nil, byteLength_nil] at hfront
        refine .inr (Nat.le_trans hfront.2 (Nat.le_trans (Nat.le_of_eq ?_) hbehind.1))
        omega
      · exact ih hrest (by omega) (by omega)

/-- A node inside another has a smaller number, and stands between the parentheses of that call. -/
theorem inner_of_inside {f : Forest} {i j : Nat} {d e : Entry}
    (hd : f.layout.entries[i]? = some d) (he : f.layout.entries[j]? = some e)
    (h : f.layout.Inside i j) :
    j < i ∧ d.source.start ≤ d.inner.start ∧ d.inner.start ≤ e.source.start ∧
      e.source.stop ≤ d.inner.stop ∧ d.inner.stop ≤ d.source.stop := by
  rcases Forest.exists_part hd with
    ⟨before, first, part, rest, after, hpart, ⟨rfl, rfl⟩ | hword⟩ |
    ⟨before, first, name, inside, closed, rest, after, hpart, rfl, rfl⟩
  · have hholds := hpart.holds (holds_layout f)
    rw [Nat.zero_add, Nat.zero_add] at hholds
    obtain ⟨hlo, hhi⟩ := (inside_leaf_iff hholds).1 h
    obtain ⟨k, rfl⟩ := Nat.exists_eq_add_of_le hlo
    have hcount : 0 < part.wordCount := by omega
    have hcall := Leaf.isCall_of_wordCount_pos hcount
    have hmem : e ∈ part.words (byteLength before) := by
      rw [hholds.leaf.2.1 k (by omega)] at he
      exact List.mem_of_getElem? he
    have hword := Leaf.source_of_mem_words first hmem
    have hinner := Leaf.inner_entry first (byteLength before) hcall
    rw [Leaf.entry_source]
    exact ⟨hhi, hinner.1, hword.1, hword.2, hinner.2⟩
  · rw [inside_iff hd] at h
    obtain ⟨k, hk, -⟩ := h
    have hnone := List.flatMap_eq_nil_iff.1 (part.children_words (byteLength before)) d hword
    rw [hnone] at hk
    cases hk
  · have hholds := hpart.holds (holds_layout f)
    rw [Nat.zero_add, Nat.zero_add] at hholds
    obtain ⟨hlo, hhi⟩ := (inside_call_iff hholds).1 h
    obtain ⟨-, hinside, -⟩ := hholds.call
    have hsource := hinside.source he hlo hhi
    simp only [Forest.callEntry, Leaf.innerSpan]
    omega

/-- The children of an entry follow the order of the text, and come before it. -/
theorem children_of_getElem? {f : Forest} {i : Nat} {e : Entry}
    (he : f.layout.entries[i]? = some e) :
    e.children.Pairwise (· < ·) ∧ (∀ k ∈ e.children, k < i) ∧
      (e.children ≠ [] → e.node.isCall = true) := by
  rcases Forest.exists_part he with
    ⟨before, first, part, rest, after, hpart, ⟨rfl, rfl⟩ | hword⟩ |
    ⟨before, first, name, inside, closed, rest, after, hpart, rfl, rfl⟩
  · rw [Leaf.children_entry, Leaf.entry_node]
    refine ⟨List.pairwise_lt_range', fun k hk => (List.mem_range'_1.1 hk).2, fun hne => ?_⟩
    refine Leaf.isCall_of_wordCount_pos (Nat.pos_of_ne_zero fun hzero => hne ?_)
    rw [hzero]
    rfl
  · rw [List.flatMap_eq_nil_iff.1 (part.children_words (byteLength before)) e hword]
    exact ⟨.nil, by simp, by simp⟩
  · exact ⟨inside.pairwise_rootsFrom first, fun k hk => (Forest.mem_rootsFrom hk).2, fun _ => rfl⟩

/-- The numbers of a layout make up a forest in post-order: each is that of one node on the top
level or inside one call, and in each of these places numbers grow. -/
structure IsPostOrder (l : Layout) : Prop where
  once : (l.roots ++ l.entries.toList.flatMap Entry.children).Perm (List.range l.entries.size)
  roots : l.roots.Pairwise (· < ·)
  children : ∀ (i : Nat) (e : Entry), l.entries[i]? = some e → e.children.Pairwise (· < ·) ∧
    (∀ k ∈ e.children, k < i) ∧ (e.children ≠ [] → e.node.isCall = true)

/-- The walk through a layout comes to its end and meets every call once, from the front of the text
to its end. -/
structure WalksInOrder (l : Layout) : Prop where
  ends : Visits l.entries l.roots l.walk
  nodup : l.walk.Nodup
  mem : ∀ i, i ∈ l.walk ↔ ∃ e, l.entries[i]? = some e ∧ e.node.isCall = true
  starts : l.walk.Pairwise fun i j => ∃ d e, l.entries[i]? = some d ∧ l.entries[j]? = some e ∧
    d.source.start < e.source.start
  outer_first : ∀ i ∈ l.walk, ∀ j ∈ l.walk, l.Inside i j → [i, j].Sublist l.walk

/-- Nodes are nested as their places are. -/
structure NestsByPlace (l : Layout) : Prop where
  within : ∀ (i j : Nat) (d e : Entry), l.entries[i]? = some d → l.entries[j]? = some e →
    l.Inside i j → d.inner.start ≤ e.source.start ∧ e.source.stop ≤ d.inner.stop
  apart : ∀ (i j : Nat) (d e : Entry), l.entries[i]? = some d → l.entries[j]? = some e → i < j →
    ¬ l.Inside j i → d.source.stop ≤ e.source.start

theorem isPostOrder_layout (f : Forest) : f.layout.IsPostOrder := by
  refine ⟨?_, ?_, fun i e he => children_of_getElem? he⟩
  · have hperm := f.numbers_perm 0 0
    rw [Forest.layout_eq]
    simpa [List.range_eq_range'] using hperm
  · rw [Forest.layout_eq]
    exact f.pairwise_rootsFrom 0

theorem nestsByPlace_layout (f : Forest) : f.layout.NestsByPlace := by
  refine ⟨fun i j d e hd he h => ?_, fun i j d e hd he hij hout => ?_⟩
  · obtain ⟨-, -, hstart, hstop, -⟩ := inner_of_inside hd he h
    exact ⟨hstart, hstop⟩
  · have hj : j < 0 + f.size := by
      have hlt := (Array.getElem?_eq_some_iff.1 he).1
      simpa [Forest.layout_eq] using hlt
    have hplace := inside_or_before (holds_layout f) hd he (Nat.zero_le i) hij hj
    exact hplace.resolve_left hout

theorem walksInOrder_layout (f : Forest) : f.layout.WalksInOrder := by
  have hstarts := pairwise_walk f
  refine ⟨visits_walk f, hstarts.imp ?_, mem_walk_iff f, hstarts, fun i hi j hj h => ?_⟩
  · rintro i j ⟨d, e, hd, he, hlt⟩ rfl
    rw [hd] at he
    obtain rfl := Option.some.inj he
    exact Nat.lt_irrefl _ hlt
  · obtain ⟨d, hd, -⟩ := (mem_walk_iff f i).1 hi
    obtain ⟨e, he, -⟩ := (mem_walk_iff f j).1 hj
    obtain ⟨hnumber, hown, hinner, -⟩ := inner_of_inside hd he h
    obtain ⟨front, back, hwalk⟩ := List.append_of_mem hi
    rw [hwalk] at hstarts hj ⊢
    rcases List.mem_append.1 hj with hj | hj
    -- what is met before the outer call begins before it
    · obtain ⟨e', d', he', hd', hlt⟩ :=
        (List.pairwise_append.1 hstarts).2.2 j hj i List.mem_cons_self
      rw [he] at he'
      rw [hd] at hd'
      obtain rfl := Option.some.inj he'
      obtain rfl := Option.some.inj hd'
      omega
    · rcases List.mem_cons.1 hj with rfl | hj
      · exact absurd hnumber (Nat.lt_irrefl j)
      · exact ((List.singleton_sublist.2 hj).cons_cons i).trans (List.sublist_append_right _ _)

/-- The layout of a value is a forest in post-order whose nodes are nested as their places in the
text are, and the walk through it meets every call once, each before the calls inside it. -/
theorem postOrder_parse (t : Text) :
    (Forest.parse t).layout.IsPostOrder ∧ (Forest.parse t).layout.WalksInOrder ∧
      (Forest.parse t).layout.NestsByPlace :=
  ⟨isPostOrder_layout _, walksInOrder_layout _, nestsByPlace_layout _⟩

-- The word inside the address has the number 0; the last call lacks its end and is numbered last.
example : (Forest.parse "f(url( a),g())h(".toList).layout.walk = [4, 1, 3, 5] := by
  decide +kernel

end Layout

end CallLint
