import CallLint.Linter
import CallLint.Proofs.Layout.Within

/-!
# The walk through a layout

* `walk_layout`: the walk through the layout of a forest meets the numbers of its calls, in the
  order in which the calls begin.
* `callNumbers_filter`: the numbers of the calls in a part of a forest are those of the whole that
  lie among the numbers of the part.
* `lint_eq_walk`: what is found in a value is what is found in the entries that the walk meets.
-/

namespace CallLint

open Text

namespace Forest

/-- The numbers of the calls of a forest, in the order in which the calls begin. -/
def callNumbers (base : Nat) : Forest → List Nat
  | .nil => []
  | .leaf part rest =>
    (if (Node.leaf part).isCall then [base + part.wordCount] else []) ++
      rest.callNumbers (base + part.wordCount + 1)
  | .call _ inside _ rest =>
    (base + inside.size) :: (inside.callNumbers base ++ rest.callNumbers (base + inside.size + 1))

theorem mem_callNumbers {f : Forest} {base i : Nat} (h : i ∈ f.callNumbers base) :
    base ≤ i ∧ i < base + f.size := by
  induction f generalizing base with
  | nil => cases h
  | leaf part rest ih =>
    rw [callNumbers, List.mem_append] at h
    rw [size]
    rcases h with h | h
    · split at h
      · obtain rfl := List.mem_singleton.1 h
        omega
      · cases h
    · have := ih h
      omega
  | call name inside closed rest ihInside ih =>
    rw [callNumbers, List.mem_cons, List.mem_append] at h
    rw [size]
    rcases h with rfl | h | h
    · omega
    · have := ihInside h
      omega
    · have := ih h
      omega

/-- Whether the number is one of so many from `base` on. -/
def inRange (base size i : Nat) : Bool := base ≤ i && i < base + size

theorem filter_inRange_eq_nil {f : Forest} {base lo n : Nat}
    (h : lo + n ≤ base ∨ base + f.size ≤ lo) :
    (f.callNumbers base).filter (inRange lo n) = [] := by
  rw [List.filter_eq_nil_iff]
  intro i hi
  have hm := mem_callNumbers hi
  simp only [inRange, Bool.and_eq_true, decide_eq_true_eq]
  omega

/-- The numbers of the calls in a part of a forest are those that lie among the numbers of the
part. -/
theorem callNumbers_filter {f g : Forest} {before after : Text} {first : Nat}
    (h : Within f before first g after) (base : Nat) :
    (f.callNumbers base).filter (inRange (base + first) g.size) = g.callNumbers (base + first) := by
  induction h generalizing base with
  | all f =>
    rw [Nat.add_zero, List.filter_eq_self]
    intro i hi
    simpa [inRange] using mem_callNumbers hi
  | @afterLeaf part rest g before after first h ih =>
    have hr := ih (base + part.wordCount + 1)
    have hfirst : base + part.wordCount + 1 + first = base + (part.wordCount + 1 + first) := by
      omega
    rw [hfirst] at hr
    rw [callNumbers, List.filter_append, hr, List.filter_eq_nil_iff.2, List.nil_append]
    intro i hi
    split at hi
    · obtain rfl := List.mem_singleton.1 hi
      simp only [inRange, Bool.and_eq_true, decide_eq_true_eq]
      omega
    · cases hi
  | @inside name inside rest g closed before after first h ih =>
    have hle := h.le_size
    rw [callNumbers, List.filter_cons_of_neg, List.filter_append, ih, filter_inRange_eq_nil,
      List.append_nil]
    · omega
    · simp only [inRange, Bool.and_eq_true, decide_eq_true_eq]
      omega
  | @afterCall name inside rest g closed before after first h ih =>
    have hr := ih (base + inside.size + 1)
    have hfirst : base + inside.size + 1 + first = base + (inside.size + 1 + first) := by
      omega
    rw [hfirst] at hr
    rw [callNumbers, List.filter_cons_of_neg, List.filter_append, hr, filter_inRange_eq_nil,
      List.nil_append]
    · omega
    · simp only [inRange, Bool.and_eq_true, decide_eq_true_eq]
      omega

end Forest

namespace Layout

variable {l : Layout} {base pos : Nat}

theorem visit_cons {i : Nat} {e : Entry} (h : l.entries[i]? = some e) (steps : Nat)
    (pending : List Nat) :
    visit l.entries (steps + 1) (i :: pending) =
      if e.node.isCall then i :: visit l.entries steps (e.children ++ pending)
      else visit l.entries steps pending := by
  rw [visit]
  simp only [h]

/-- The visit of a leaf meets the leaf itself if it is an address, and no other call. -/
theorem visit_leaf {part : Leaf} {rest : Forest} (h : l.Holds (.leaf part rest) base pos)
    (steps : Nat) (pending : List Nat) :
    visit l.entries (part.wordCount + 1 + steps) ((base + part.wordCount) :: pending) =
      (if (Node.leaf part).isCall then [base + part.wordCount] else []) ++
        visit l.entries steps pending := by
  obtain ⟨hown, hwords, -⟩ := h.leaf
  cases part with
  | address name body closed =>
    by_cases hbody : trim body = []
    · simp only [Leaf.wordCount, hbody, if_true] at hown ⊢
      rw [Nat.zero_add, Nat.add_comm, visit_cons hown]
      simp [Leaf.entry, hbody, Node.isCall]
    · have hw := hwords 0 (by simp [Leaf.wordCount, hbody])
      simp only [Leaf.wordCount, Leaf.words, hbody, if_false, Nat.add_zero] at hown hw ⊢
      rw [Nat.add_comm, ← Nat.add_assoc, visit_cons hown]
      simp only [Leaf.entry, hbody, if_false, Node.isCall, if_true, List.singleton_append]
      rw [visit_cons hw]
      simp [Entry.ofLeaf, Node.isCall]
  | _ =>
    simp only [Leaf.wordCount, Nat.add_zero, Nat.zero_add] at hown ⊢
    rw [Nat.add_comm, visit_cons hown]
    simp [Node.isCall, Leaf.entry, Entry.ofLeaf]

/-- The visit of the nodes of a forest meets its calls, in the order in which they begin. -/
theorem visit_rootsFrom {f : Forest} (h : l.Holds f base pos) (steps : Nat) (pending : List Nat) :
    visit l.entries (f.size + steps) (f.rootsFrom base ++ pending) =
      f.callNumbers base ++ visit l.entries steps pending := by
  induction f generalizing base pos steps pending with
  | nil => simp [Forest.size, Forest.rootsFrom, Forest.callNumbers]
  | leaf part rest ih =>
    have hrest := ih h.leaf.2.2 steps pending
    rw [Forest.size, Nat.add_assoc, Forest.rootsFrom, List.cons_append, visit_leaf h, hrest,
      Forest.callNumbers, List.append_assoc]
  | call name inside closed rest ihInside ih =>
    obtain ⟨hown, hinside, hrest⟩ := h.call
    have hsize : (Forest.call name inside closed rest).size + steps =
        inside.size + (rest.size + steps) + 1 := by
      rw [Forest.size]
      omega
    rw [hsize, Forest.rootsFrom, List.cons_append, visit_cons hown]
    simp only [Forest.callEntry, Node.isCall, if_true]
    rw [ihInside hinside, ih hrest, Forest.callNumbers, List.cons_append, List.append_assoc]

/-- The walk through the layout of a forest meets its calls, in the order in which they begin. -/
theorem walk_layout (f : Forest) : f.layout.walk = f.callNumbers 0 := by
  have h := visit_rootsFrom (holds_layout f) 0 []
  rw [List.append_nil, Nat.add_zero] at h
  have hsize : f.layout.entries.size = f.size := by simp [Forest.layout_eq]
  have hroots : f.layout.roots = f.rootsFrom 0 := by rw [Forest.layout_eq]
  rw [walk, hsize, hroots, h]
  simp [visit]

end Layout

/-- What is found in the call with the given number. -/
def Config.found (c : Config) (property : Text) (l : Layout) (i : Nat) : List Violation :=
  match l.entries[i]? with
  | some e => (c.judge property e.node).violations
  | none => []

theorem Config.found_of_getElem? {c : Config} {property : Text} {l : Layout} {i : Nat} {e : Entry}
    (h : l.entries[i]? = some e) : c.found property l i = (c.judge property e.node).violations := by
  rw [found, h]

/-- What is found in the calls of a forest is what is found under their numbers. -/
theorem Config.flatMap_callNumbers {l : Layout} {f : Forest} {base pos : Nat}
    (h : l.Holds f base pos) (c : Config) (property : Text) :
    (f.callNumbers base).flatMap (c.found property l) =
      f.calls.flatMap fun n => (c.judge property n).violations := by
  induction f generalizing base pos with
  | nil => rfl
  | leaf part rest ih =>
    obtain ⟨hown, -, hrest⟩ := h.leaf
    rw [Forest.callNumbers, List.flatMap_append, ih hrest, Forest.calls_leaf]
    split
    · simp [found_of_getElem? hown]
    · simp
  | call name inside closed rest ihInside ih =>
    obtain ⟨hown, hinside, hrest⟩ := h.call
    rw [Forest.callNumbers, List.flatMap_cons, List.flatMap_append, ihInside hinside, ih hrest,
      found_of_getElem? hown, Forest.calls_call, List.flatMap_cons, List.flatMap_append]
    rfl

theorem Config.lint_eq_calls (c : Config) (property value : Text) :
    c.lint property value =
      (Forest.parse value).calls.flatMap fun n => (c.judge property n).violations := by
  rw [lint, outcomes, List.flatMap_map]

/-- What is found in a value is what is found in the entries that the walk meets. -/
theorem Config.lint_eq_walk (c : Config) (property value : Text) :
    c.lint property value =
      (Forest.parse value).layout.walk.flatMap (c.found property (Forest.parse value).layout) := by
  rw [Layout.walk_layout, flatMap_callNumbers (Layout.holds_layout _), lint_eq_calls]

end CallLint
