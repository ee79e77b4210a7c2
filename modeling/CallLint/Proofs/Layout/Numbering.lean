import CallLint.Forest.Layout
import Mathlib.Tactic.Common

/-!
# The entries of a forest

A layout is drawn up node by node. Here the entries of a forest are told at once: those of a
forest whose entries are numbered from `base` and whose text begins at the byte `pos`.

* `addForest_eq`, `layout_eq`: drawing up a layout gives these entries.
* `entriesFrom_shift`: a forest at another place has the same entries, moved.
* `Layout.Holds`: the entries of a forest stand in a row in a layout.
-/

namespace CallLint

open Text

namespace Leaf

/-- The number of entries in front of the leaf's own: one for the word inside an address. -/
def wordCount : Leaf → Nat
  | .address _ body _ => if trim body = [] then 0 else 1
  | _ => 0

/-- Where the text between the parentheses of a call stands that begins at `pos`. -/
def innerSpan (pos : Nat) (name body : Text) : Span :=
  ⟨pos + byteLength name + 1, pos + byteLength name + 1 + byteLength body⟩

/-- Where the trimmed text stands, for a text that begins at `pos`. -/
def trimSpan (pos : Nat) (t : Text) : Span :=
  ⟨pos + (byteLength t - byteLength (trimStart t)),
    pos + (byteLength t - byteLength (trimStart t)) + byteLength (trim t)⟩

/-- The entry for the word inside an address. -/
def words (pos : Nat) : Leaf → List Entry
  | .address name body _ =>
    let place := trimSpan (innerSpan pos name body).start body
    if trim body = [] then [] else [.ofLeaf (.word (trim body)) place place]
  | _ => []

/-- The leaf's own entry. -/
def entry (base pos : Nat) (part : Leaf) : Entry :=
  let source : Span := ⟨pos, pos + byteLength part.text⟩
  match part with
  | .quoted _ body _ => .ofLeaf part ⟨pos + 1, pos + 1 + byteLength body⟩ source
  | .comment body _ => .ofLeaf part ⟨pos + 2, pos + 2 + byteLength body⟩ source
  | .address name body _ =>
    ⟨.leaf part, ⟨pos, pos + byteLength name⟩, source, innerSpan pos name body,
      if trim body = [] then [] else [base]⟩
  | _ => .ofLeaf part source source

@[simp] theorem entry_node (base pos : Nat) (part : Leaf) :
    (part.entry base pos).node = .leaf part := by
  cases part <;> rfl

@[simp] theorem entry_source (base pos : Nat) (part : Leaf) :
    (part.entry base pos).source = ⟨pos, pos + byteLength part.text⟩ := by
  cases part <;> rfl

@[simp] theorem length_words (pos : Nat) (part : Leaf) :
    (part.words pos).length = part.wordCount := by
  cases part with
  | address name body closed =>
    simp only [words, wordCount]
    split <;> rfl
  | _ => rfl

theorem node_of_mem_words {pos : Nat} {part : Leaf} {e : Entry} (h : e ∈ part.words pos) :
    ∃ t, e.node = .leaf (.word t) := by
  cases part with
  | address name body closed =>
    simp only [words] at h
    split at h
    · cases h
    · obtain rfl := List.mem_singleton.1 h
      exact ⟨_, rfl⟩
  | _ => cases h

theorem isCall_of_mem_words {pos : Nat} {part : Leaf} {e : Entry} (h : e ∈ part.words pos) :
    e.node.isCall = false := by
  obtain ⟨t, ht⟩ := node_of_mem_words h
  rw [ht]
  rfl

theorem closed_of_mem_words {pos : Nat} {part : Leaf} {e : Entry} (h : e ∈ part.words pos) :
    e.node.closed = true := by
  obtain ⟨t, ht⟩ := node_of_mem_words h
  rw [ht]
  rfl

end Leaf

theorem byteLength_address (name body : Text) (closed : Bool) :
    byteLength (Leaf.address name body closed).text =
      byteLength name + 1 + byteLength body + if closed then 1 else 0 := by
  cases closed <;> simp [Leaf.text, Char.utf8Size] <;> omega

theorem Draft.addLeaf_eq (d : Draft) (part : Leaf) :
    d.addLeaf part =
      ⟨part.entry d.count d.position :: ((part.words d.position).reverse ++ d.entries),
        d.count + part.wordCount + 1, d.position + byteLength part.text⟩ := by
  cases part with
  | address name body closed =>
    simp only [addLeaf, addAddress, Leaf.words, Leaf.entry, Leaf.wordCount, byteLength_address]
    by_cases hw : trim body = []
    · simp [hw, add, Leaf.innerSpan]
      omega
    · simp [hw, add, Leaf.innerSpan, Leaf.trimSpan, last]
      omega
  | _ => rfl

namespace Forest

/-- The number of entries. -/
def size : Forest → Nat
  | .nil => 0
  | .leaf part rest => part.wordCount + 1 + rest.size
  | .call _ inside _ rest => inside.size + 1 + rest.size

/-- The numbers of the top level. -/
def rootsFrom (base : Nat) : Forest → List Nat
  | .nil => []
  | .leaf part rest => (base + part.wordCount) :: rest.rootsFrom (base + part.wordCount + 1)
  | .call _ inside _ rest => (base + inside.size) :: rest.rootsFrom (base + inside.size + 1)

/-- A call's own entry. -/
def callEntry (base pos : Nat) (name : Text) (inside : Forest) (closed : Bool) : Entry :=
  let inner := Leaf.innerSpan pos name inside.text
  ⟨.call name inside closed, ⟨pos, pos + byteLength name⟩,
    ⟨pos, inner.stop + if closed then 1 else 0⟩, inner, inside.rootsFrom base⟩

/-- The entries of a forest, in the order of their numbers. -/
def entriesFrom (base pos : Nat) : Forest → List Entry
  | .nil => []
  | .leaf part rest =>
    part.words pos ++ part.entry base pos ::
      rest.entriesFrom (base + part.wordCount + 1) (pos + byteLength part.text)
  | .call name inside closed rest =>
    let own := callEntry base pos name inside closed
    inside.entriesFrom base own.inner.start ++ own ::
      rest.entriesFrom (base + inside.size + 1) own.source.stop

@[simp] theorem length_entriesFrom (base pos : Nat) (f : Forest) :
    (f.entriesFrom base pos).length = f.size := by
  induction f generalizing base pos with
  | nil => rfl
  | leaf part rest ih =>
    simp only [entriesFrom, size, List.length_append, List.length_cons, Leaf.length_words, ih]
    omega
  | call name inside closed rest ihInside ih =>
    simp only [entriesFrom, size, List.length_append, List.length_cons, ihInside, ih]
    omega

theorem byteLength_text_call (name : Text) (inside : Forest) (closed : Bool) (rest : Forest) :
    byteLength (text (.call name inside closed rest)) =
      byteLength name + 1 + byteLength inside.text + (if closed then 1 else 0) +
        byteLength rest.text := by
  cases closed <;> simp [Char.utf8Size] <;> omega

end Forest

/-- Drawing up the layout of a forest adds its entries, and gives the numbers of its nodes. -/
theorem Draft.addForest_eq (d : Draft) (f : Forest) :
    d.addForest f = (f.rootsFrom d.count,
      ⟨(f.entriesFrom d.count d.position).reverse ++ d.entries, d.count + f.size,
        d.position + byteLength f.text⟩) := by
  induction f generalizing d with
  | nil => rfl
  | leaf part rest ih =>
    simp [addForest, addLeaf_eq, ih, Forest.rootsFrom, Forest.entriesFrom, Forest.size, last]
    omega
  | call name inside closed rest ihInside ih =>
    rw [Forest.byteLength_text_call]
    simp only [addForest, moveTo, ihInside, ih, Forest.rootsFrom, Forest.entriesFrom, Forest.size,
      last, add, Forest.callEntry, Leaf.innerSpan, Nat.add_sub_cancel, List.reverse_append,
      List.reverse_cons, List.append_assoc, List.singleton_append]
    congr 2 <;> omega

theorem Forest.layout_eq (f : Forest) :
    f.layout = ⟨(f.entriesFrom 0 0).toArray, f.rootsFrom 0, byteLength f.text⟩ := by
  simp [layout, Draft.addForest_eq, Draft.empty]

/-! ## Moving a forest -/

/-- The range, moved behind so many further bytes. -/
def Span.shift (bytes : Nat) (s : Span) : Span := ⟨s.start + bytes, s.stop + bytes⟩

/-- The entry, moved behind `bytes` further bytes and `ids` further entries. Only a call has an
inner range and children. -/
def Entry.shift (bytes ids : Nat) (e : Entry) : Entry :=
  ⟨e.node, e.value.shift bytes, e.source.shift bytes,
    if e.node.isCall then e.inner.shift bytes else e.inner, e.children.map (· + ids)⟩

theorem Leaf.words_shift (pos bytes ids : Nat) (part : Leaf) :
    part.words (pos + bytes) = (part.words pos).map (Entry.shift bytes ids) := by
  cases part with
  | address name body closed =>
    simp only [words]
    split
    · rfl
    · simp [Entry.shift, Entry.ofLeaf, Span.shift, trimSpan, innerSpan, Node.isCall]
      omega
  | _ => rfl

theorem Leaf.entry_shift (base pos bytes ids : Nat) (part : Leaf) :
    part.entry (base + ids) (pos + bytes) = (part.entry base pos).shift bytes ids := by
  cases part with
  | address name body closed =>
    simp only [entry, Entry.shift, Span.shift, innerSpan, Node.isCall, if_true]
    split <;> simp <;> omega
  | _ =>
    simp [entry, Entry.shift, Entry.ofLeaf, Span.shift, Node.isCall]
    try omega

theorem Forest.rootsFrom_shift (base ids : Nat) (f : Forest) :
    f.rootsFrom (base + ids) = (f.rootsFrom base).map (· + ids) := by
  induction f generalizing base with
  | nil => rfl
  | leaf part rest ih =>
    rw [rootsFrom, rootsFrom, List.map_cons, Nat.add_right_comm base ids,
      Nat.add_right_comm (base + part.wordCount) ids, ih]
  | call name inside closed rest _ ih =>
    rw [rootsFrom, rootsFrom, List.map_cons, Nat.add_right_comm base ids,
      Nat.add_right_comm (base + inside.size) ids, ih]

theorem Forest.callEntry_shift (base pos bytes ids : Nat) (name : Text) (inside : Forest)
    (closed : Bool) :
    callEntry (base + ids) (pos + bytes) name inside closed =
      (callEntry base pos name inside closed).shift bytes ids := by
  simp only [callEntry, Entry.shift, Span.shift, Leaf.innerSpan, Node.isCall, if_true,
    rootsFrom_shift]
  congr 2 <;> omega

/-- A forest at another place has the same entries, moved. -/
theorem Forest.entriesFrom_shift (base pos bytes ids : Nat) (f : Forest) :
    f.entriesFrom (base + ids) (pos + bytes) =
      (f.entriesFrom base pos).map (Entry.shift bytes ids) := by
  induction f generalizing base pos with
  | nil => rfl
  | leaf part rest ih =>
    rw [entriesFrom, entriesFrom, Leaf.words_shift pos bytes ids, Leaf.entry_shift, List.map_append,
      List.map_cons, ← ih]
    congr 3 <;> omega
  | call name inside closed rest ihInside ih =>
    have hstart : (callEntry (base + ids) (pos + bytes) name inside closed).inner.start =
        (callEntry base pos name inside closed).inner.start + bytes := by
      simp only [callEntry, Leaf.innerSpan]
      omega
    have hstop : (callEntry (base + ids) (pos + bytes) name inside closed).source.stop =
        (callEntry base pos name inside closed).source.stop + bytes := by
      simp only [callEntry, Leaf.innerSpan]
      omega
    simp only [entriesFrom, hstart, hstop, ihInside, List.map_append, List.map_cons]
    rw [callEntry_shift, Nat.add_right_comm base ids,
      Nat.add_right_comm (base + inside.size) ids, ih]

/-! ## A forest in a layout -/

namespace Layout

/-- The entries of the forest stand in a row in the layout, from the number `base` on, where its
text begins at the byte `pos`. -/
def Holds (l : Layout) (f : Forest) (base pos : Nat) : Prop :=
  ∃ front back, l.entries.toList = front ++ (f.entriesFrom base pos ++ back) ∧ front.length = base

theorem holds_layout (f : Forest) : f.layout.Holds f 0 0 :=
  ⟨[], [], by simp [Forest.layout_eq], rfl⟩

variable {l : Layout} {base pos : Nat}

theorem getElem?_of_split {front back : List Entry} {e : Entry}
    (h : l.entries.toList = front ++ e :: back) : l.entries[front.length]? = some e := by
  rw [← Array.getElem?_toList, h]
  simp

theorem Holds.leaf {part : Leaf} {rest : Forest} (h : l.Holds (.leaf part rest) base pos) :
    l.entries[base + part.wordCount]? = some (part.entry base pos) ∧
      (∀ i < part.wordCount, l.entries[base + i]? = (part.words pos)[i]?) ∧
      l.Holds rest (base + part.wordCount + 1) (pos + byteLength part.text) := by
  obtain ⟨front, back, h, rfl⟩ := h
  rw [Forest.entriesFrom] at h
  refine ⟨?_, fun i hi => ?_, front ++ part.words pos ++ [part.entry front.length pos], back, ?_,
    ?_⟩
  · have hsplit : l.entries.toList = (front ++ part.words pos) ++
        part.entry front.length pos :: (rest.entriesFrom (front.length + part.wordCount + 1)
          (pos + byteLength part.text) ++ back) := by simp [h]
    simpa using getElem?_of_split hsplit
  · rw [← Array.getElem?_toList, h, List.getElem?_append_right (by omega), List.append_assoc,
      List.getElem?_append_left (by simp; omega)]
    congr 1
    omega
  · simp [h]
  · simp
    omega

theorem Holds.call {name : Text} {inside rest : Forest} {closed : Bool}
    (h : l.Holds (.call name inside closed rest) base pos) :
    l.entries[base + inside.size]? = some (Forest.callEntry base pos name inside closed) ∧
      l.Holds inside base (pos + byteLength name + 1) ∧
      l.Holds rest (base + inside.size + 1)
        (pos + byteLength name + 1 + byteLength inside.text + if closed then 1 else 0) := by
  obtain ⟨front, back, h, rfl⟩ := h
  rw [Forest.entriesFrom] at h
  refine ⟨?_, ⟨front, Forest.callEntry front.length pos name inside closed ::
    (rest.entriesFrom (front.length + inside.size + 1)
      (pos + byteLength name + 1 + byteLength inside.text + if closed then 1 else 0) ++ back),
    ?_, rfl⟩, front ++ inside.entriesFrom front.length (pos + byteLength name + 1) ++
      [Forest.callEntry front.length pos name inside closed], back, ?_, ?_⟩
  · have hsplit : l.entries.toList =
        (front ++ inside.entriesFrom front.length (pos + byteLength name + 1)) ++
          Forest.callEntry front.length pos name inside closed ::
          (rest.entriesFrom (front.length + inside.size + 1)
            (pos + byteLength name + 1 + byteLength inside.text + if closed then 1 else 0) ++
            back) := by simp [h, Forest.callEntry, Leaf.innerSpan]
    simpa using getElem?_of_split hsplit
  · simp [h, Forest.callEntry, Leaf.innerSpan]
  · simp [h, Forest.callEntry, Leaf.innerSpan]
  · simp
    omega

/-- The entries of a forest in a layout, by number. -/
theorem Holds.getElem? {f : Forest} (h : l.Holds f base pos) {i : Nat} (hi : i < f.size) :
    l.entries[base + i]? = (f.entriesFrom base pos)[i]? := by
  obtain ⟨front, back, h, rfl⟩ := h
  rw [← Array.getElem?_toList, h, List.getElem?_append_right (by omega), Nat.add_sub_cancel_left,
    List.getElem?_append_left (by simpa using hi)]

end Layout

end CallLint
