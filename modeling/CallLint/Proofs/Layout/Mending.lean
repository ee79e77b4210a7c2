import CallLint.Proofs.Forest.Mending
import CallLint.Proofs.Layout.PostOrder
import Mathlib.Data.Set.Card

/-!
# The layout of a value with the missing ends written behind it

One `)` for each open call, written at the end of a value, changes no number, no kind and no inside
of a node. The innermost open call ends with the first `)`, the one around it with the second, and
so on.

* `entriesFrom_mend`: the entries of a forest that was given its ends.
* `openInside_eq`: the open calls inside a node, counted by number in the layout.
* `layout_append_closings`: what this says of the layout of a value.
-/

namespace CallLint

open Text

/-- The entry is that of a call without `)`. -/
def Entry.isOpenCall (e : Entry) : Bool := e.node.isCall && !e.node.closed

namespace Layout

/-- The number of calls without `)` inside a node, at any depth. -/
noncomputable def openInside (l : Layout) (i : Nat) : Nat :=
  Set.ncard {j | l.Inside i j ∧ ∃ d, l.entries[j]? = some d ∧ d.isOpenCall = true}

/-- How the second entry comes from the first one, that of the node `i` in the layout of a value of
`stop` bytes, when each open call is given its `)`. -/
structure Mended (l : Layout) (stop i : Nat) (e e' : Entry) : Prop where
  kind : e'.node.kind = e.node.kind
  value : e'.value = e.value
  children : e'.children = e.children
  closed : e'.node.closed = true
  unchanged : e.node.closed = true → e' = e
  inner : e.node.closed = false → e'.inner = ⟨e.inner.start, stop + l.openInside i⟩
  source : e.node.closed = false → e'.source = ⟨e.source.start, stop + l.openInside i + 1⟩

end Layout

/-- The node with the `)` of all its calls. -/
def Node.mend : Node → Node
  | .leaf part => .leaf part.mend
  | .call name inside _ => .call name inside.mend true

/-- The number of calls without `)` inside the node. -/
def Node.countInside : Node → Nat
  | .leaf _ => 0
  | .call _ inside _ => inside.countOpen

/-- The entry of the node with its `)`, in a value of `stop` bytes. -/
def Entry.mend (stop : Nat) (e : Entry) : Entry :=
  if e.node.closed then e
  else ⟨e.node.mend, e.value, ⟨e.source.start, stop + e.node.countInside + 1⟩,
    ⟨e.inner.start, stop + e.node.countInside⟩, e.children⟩

theorem Entry.mend_of_closed (stop : Nat) {e : Entry} (h : e.node.closed = true) :
    e.mend stop = e :=
  if_pos h

theorem Entry.map_mend_of_closed (stop : Nat) {entries : List Entry}
    (h : ∀ e ∈ entries, e.node.closed = true) : entries.map (Entry.mend stop) = entries := by
  have hid : entries.map (Entry.mend stop) = entries.map id :=
    List.map_congr_left fun e he => mend_of_closed stop (h e he)
  rw [hid, List.map_id]

namespace Leaf

@[simp] theorem wordCount_mend (part : Leaf) : part.mend.wordCount = part.wordCount := by
  cases part <;> rfl

@[simp] theorem words_mend (pos : Nat) (part : Leaf) : part.mend.words pos = part.words pos := by
  cases part <;> rfl

theorem entry_mend_address (base pos : Nat) (name body : Text) :
    (address name body true).entry base pos =
      ((address name body false).entry base pos).mend
        (pos + byteLength (address name body false).text) := by
  simp only [Entry.mend, entry, byteLength_address, innerSpan, Node.closed, Node.mend, mend,
    Node.countInside, closed]
  simp
  omega

theorem countP_words (pos : Nat) (part : Leaf) :
    (part.words pos).countP Entry.isOpenCall = 0 := by
  refine List.countP_eq_zero.2 fun e he => ?_
  rw [Entry.isOpenCall, isCall_of_mem_words he]
  simp

theorem countP_entry (base pos : Nat) (part : Leaf) :
    [part.entry base pos].countP Entry.isOpenCall = part.countOpen := by
  cases part with
  | address name body closed => cases closed <;> rfl
  | _ => rfl

end Leaf

namespace Forest

variable {f : Forest} {nested : Bool} {c : Char} {t after : Text} {base pos stop : Nat} {e : Entry}

@[simp] theorem size_mend (f : Forest) : f.mend.size = f.size := by
  induction f with
  | nil => rfl
  | leaf part rest ih => simp [mend, size, ih]
  | call name inside closed rest ihInside ih => simp [mend, size, ihInside, ih]

@[simp] theorem rootsFrom_mend (base : Nat) (f : Forest) :
    f.mend.rootsFrom base = f.rootsFrom base := by
  induction f generalizing base with
  | nil => rfl
  | leaf part rest ih => simp [mend, rootsFrom, ih]
  | call name inside closed rest _ ih => simp [mend, rootsFrom, ih]

theorem byteLength_closings (n : Nat) : byteLength (List.replicate n ')') = n := by
  induction n with
  | zero => rfl
  | succ n ih =>
    rw [List.replicate_succ, byteLength_cons, ih, Nat.add_comm]
    rfl

/-- In front of another character every entry has its end. -/
theorem Stands.closed_of_mem (h : f.Stands nested (c :: t)) (he : e ∈ f.entriesFrom base pos) :
    e.node.closed = true := by
  induction f generalizing nested c t base pos with
  | nil => cases he
  | leaf part rest ih =>
    obtain ⟨hpart, hrest⟩ := h
    rw [entriesFrom, List.mem_append, List.mem_cons] at he
    rcases he with he | rfl | he
    · exact Leaf.closed_of_mem_words he
    · rw [Leaf.entry_node]
      obtain hs | ⟨-, rfl⟩ := hpart
      · exact hs.closed_of_append_cons
      · rfl
    · exact ih hrest he
  | call name inside closed rest ihInside ih =>
    obtain ⟨-, hinside, hrest, hclosed⟩ := h
    cases closed with
    | true =>
      rw [entriesFrom, List.mem_append, List.mem_cons] at he
      rcases he with he | rfl | he
      · exact ihInside hinside he
      · rfl
      · exact ih hrest he
    | false => cases (hclosed rfl).2

theorem callEntry_mend (h : f.Stands true []) (hm : f.Mendable) (base pos : Nat) (name : Text) :
    callEntry base pos name f.mend true =
      (callEntry base pos name f false).mend (pos + byteLength name + 1 + byteLength f.text) := by
  have hlen : byteLength f.mend.text = byteLength f.text + f.countOpen := by
    rw [text_mend h hm, byteLength_append, byteLength_closings]
  simp [callEntry, Entry.mend, Node.closed, Node.mend, Node.countInside, Leaf.innerSpan, hlen]
  omega

/-- The entries of a forest that was given its ends, up to the byte `stop`. -/
theorem entriesFrom_mend (h : f.Stands nested []) (hm : f.Mendable)
    (hstop : pos + byteLength f.text = stop) :
    f.mend.entriesFrom base pos = (f.entriesFrom base pos).map (Entry.mend stop) := by
  induction f generalizing nested base pos with
  | nil => rfl
  | leaf part rest ih =>
    obtain ⟨hpart, hrest⟩ := h
    have hwords := Entry.map_mend_of_closed stop fun e (he : e ∈ part.words pos) =>
      Leaf.closed_of_mem_words he
    rw [mend, entriesFrom, entriesFrom, List.map_append, List.map_cons, Leaf.words_mend, hwords,
      Leaf.wordCount_mend]
    cases hend : part.closed with
    | true =>
      have hclosed : (part.entry base pos).node.closed = true := by rwa [Leaf.entry_node]
      have hbehind : pos + byteLength part.text + byteLength rest.text = stop := by
        rw [← hstop, text_leaf, byteLength_append, Nat.add_assoc]
      rw [(Leaf.mend_of_closed hend).1, Entry.mend_of_closed stop hclosed, ih hrest hm.2 hbehind]
    | false =>
      obtain ⟨name, body, rfl⟩ := hm.1.exists_address hend
      obtain hs | ⟨-, hword⟩ := hpart
      · have hbehind := hs.eq_nil_of_open hend
        rw [List.append_nil] at hbehind
        obtain rfl := hrest.eq_nil_of_text hbehind
        rw [text_leaf, text_nil, List.append_nil] at hstop
        rw [← hstop, ← Leaf.entry_mend_address]
        rfl
      · cases hword
  | call name inside closed rest ihInside ih =>
    obtain ⟨-, hinside, hrest, hclosed⟩ := h
    rw [mend, entriesFrom, entriesFrom, List.map_append, List.map_cons]
    rw [byteLength_text_call] at hstop
    cases closed with
    | true =>
      have hentries := Entry.map_mend_of_closed stop fun e
        (he : e ∈ inside.entriesFrom base (callEntry base pos name inside true).inner.start) =>
          Stands.closed_of_mem hinside he
      rw [hinside.mend_eq_self.1, hentries, ih hrest hm.2, Entry.mend_of_closed stop rfl]
      rw [← hstop]
      simp only [callEntry, Leaf.innerSpan]
      omega
    | false =>
      obtain ⟨rfl, -⟩ := hclosed rfl
      have hbehind : pos + byteLength name + 1 + byteLength inside.text = stop := by
        rw [← hstop, text_nil, byteLength_nil, if_neg (by simp)]
        omega
      have hentries :
          inside.mend.entriesFrom base (callEntry base pos name inside.mend true).inner.start =
            (inside.entriesFrom base (callEntry base pos name inside false).inner.start).map
              (Entry.mend stop) := ihInside hinside hm.1 hbehind
      rw [hentries, callEntry_mend hinside hm.1, hbehind]
      rfl

/-! ## Counting the open calls -/

theorem countP_entriesFrom (f : Forest) (base pos : Nat) :
    (f.entriesFrom base pos).countP Entry.isOpenCall = f.countOpen := by
  induction f generalizing base pos with
  | nil => rfl
  | leaf part rest ih =>
    rw [entriesFrom, List.countP_append, ← List.singleton_append, List.countP_append,
      Leaf.countP_words, Leaf.countP_entry, ih, Nat.zero_add, countOpen]
  | call name inside closed rest ihInside ih =>
    rw [entriesFrom, List.countP_append, List.countP_cons, ihInside, ih, countOpen]
    have hown : (callEntry base pos name inside closed).isOpenCall = !closed := rfl
    rw [hown]
    cases closed with
    | true => simp
    | false =>
      simp
      omega

/-- A forest without a string or comment that lacks its end can be given its ends. -/
theorem mendable_of_entries (h : ∀ e ∈ f.entriesFrom base pos,
    e.node.kind = .quoted ∨ e.node.kind = .comment → e.node.closed = true) : f.Mendable := by
  induction f generalizing base pos with
  | nil => trivial
  | leaf part rest ih =>
    simp only [entriesFrom, List.forall_mem_append, List.forall_mem_cons, Leaf.entry_node] at h
    obtain ⟨-, hown, hrest⟩ := h
    refine ⟨?_, ih hrest⟩
    cases part with
    | quoted mark body closed => exact hown (.inl rfl)
    | comment body closed => exact hown (.inr rfl)
    | address name body closed => trivial
    | _ => rfl
  | call name inside closed rest ihInside ih =>
    simp only [entriesFrom, List.forall_mem_append, List.forall_mem_cons] at h
    exact ⟨ihInside h.1, ih h.2.2⟩

end Forest

/-- The items of a list that have a property are counted by their numbers. -/
theorem ncard_getElem? {α : Type} (p : α → Bool) (as : List α) :
    Set.ncard {j : Nat | ∃ a, as[j]? = some a ∧ p a = true} = as.countP p := by
  induction as with
  | nil => simp
  | cons a as ih =>
    have hfinite : {j : Nat | ∃ b, as[j]? = some b ∧ p b = true}.Finite := by
      refine (Set.finite_lt_nat as.length).subset fun j hj => ?_
      obtain ⟨b, hb, -⟩ := hj
      exact (List.getElem?_eq_some_iff.1 hb).1
    have hcard := Set.ncard_image_of_injective {j : Nat | ∃ b, as[j]? = some b ∧ p b = true}
      Nat.succ_injective
    rw [List.countP_cons, ← ih, ← hcard]
    cases ha : p a with
    | true =>
      rw [if_pos rfl, ← Set.ncard_insert_of_notMem (a := 0) (by simp) (hfinite.image _)]
      refine congrArg Set.ncard (Set.ext fun j => ?_)
      cases j with
      | zero => simp [ha]
      | succ j => simp
    | false =>
      rw [if_neg (by simp), Nat.add_zero]
      refine congrArg Set.ncard (Set.ext fun j => ?_)
      cases j with
      | zero => simp [ha]
      | succ j => simp

namespace Layout

theorem ncard_openCalls {l : Layout} {first : Nat} (entries : List Entry)
    (h : ∀ j < entries.length, l.entries[first + j]? = entries[j]?) :
    Set.ncard {j | (first ≤ j ∧ j < first + entries.length) ∧
      ∃ d, l.entries[j]? = some d ∧ d.isOpenCall = true} = entries.countP Entry.isOpenCall := by
  rw [← ncard_getElem?, ← Set.ncard_image_of_injective {j : Nat | ∃ d, entries[j]? = some d ∧ _}
    (add_right_injective first)]
  refine congrArg Set.ncard (Set.ext fun j => ⟨?_, ?_⟩)
  · rintro ⟨⟨hlo, hhi⟩, d, hd, hopen⟩
    obtain ⟨k, rfl⟩ := Nat.exists_eq_add_of_le hlo
    rw [h k (by omega)] at hd
    exact ⟨k, ⟨d, hd, hopen⟩, rfl⟩
  · rintro ⟨k, ⟨d, hd, hopen⟩, rfl⟩
    have hk := (List.getElem?_eq_some_iff.1 hd).1
    rw [← h k hk] at hd
    exact ⟨⟨Nat.le_add_right first k, Nat.add_lt_add_left hk first⟩, d, hd, hopen⟩

/-- The open calls inside a node are those of its forest. -/
theorem openInside_eq {f : Forest} {i : Nat} {e : Entry} (he : f.layout.entries[i]? = some e) :
    f.layout.openInside i = e.node.countInside := by
  rcases Forest.exists_part he with
    ⟨before, first, part, rest, after, hpart, ⟨rfl, rfl⟩ | hword⟩ |
    ⟨before, first, name, inside, closed, rest, after, hpart, rfl, rfl⟩
  · have hholds := hpart.holds (holds_layout f)
    rw [Nat.zero_add, Nat.zero_add] at hholds
    have hcount := ncard_openCalls (part.words (byteLength before)) fun j hj =>
      hholds.leaf.2.1 j (by rwa [← Leaf.length_words])
    rw [Leaf.length_words, Leaf.countP_words] at hcount
    simp only [openInside, inside_leaf_iff hholds, hcount, Leaf.entry_node, Node.countInside]
  · have hnone : e.children = [] :=
      List.flatMap_eq_nil_iff.1 (part.children_words (byteLength before)) e hword
    obtain ⟨w, hw⟩ := Leaf.node_of_mem_words hword
    simp [openInside, inside_iff he, hnone, hw, Node.countInside]
  · have hholds := hpart.holds (holds_layout f)
    rw [Nat.zero_add, Nat.zero_add] at hholds
    have hcount := ncard_openCalls
      (inside.entriesFrom first (byteLength before + byteLength name + 1))
      fun j hj => hholds.call.2.1.getElem? (by simpa using hj)
    rw [Forest.length_entriesFrom, Forest.countP_entriesFrom] at hcount
    simp only [openInside, inside_call_iff hholds, hcount, Forest.callEntry, Node.countInside]

end Layout

/-! ## The layout of a value -/

theorem Node.kind_mend (n : Node) : n.mend.kind = n.kind := by
  cases n with
  | leaf part => cases part <;> rfl
  | call name inside closed => rfl

theorem Node.closed_mend {n : Node} (h : n.kind = .quoted ∨ n.kind = .comment → n.closed = true) :
    n.mend.closed = true := by
  cases n with
  | leaf part =>
    cases part with
    | quoted mark body closed => exact h (.inl rfl)
    | comment body closed => exact h (.inr rfl)
    | _ => rfl
  | call name inside closed => rfl

theorem Layout.mended_mend {l : Layout} {i : Nat} {e : Entry} (stop : Nat)
    (h : e.node.kind = .quoted ∨ e.node.kind = .comment → e.node.closed = true)
    (hinside : l.openInside i = e.node.countInside) : l.Mended stop i e (e.mend stop) := by
  cases hclosed : e.node.closed with
  | true =>
    rw [Entry.mend_of_closed stop hclosed]
    exact ⟨rfl, rfl, rfl, hclosed, fun _ => rfl, by simp [hclosed], by simp [hclosed]⟩
  | false =>
    have hmend : e.mend stop = ⟨e.node.mend, e.value,
        ⟨e.source.start, stop + e.node.countInside + 1⟩,
        ⟨e.inner.start, stop + e.node.countInside⟩, e.children⟩ := if_neg (by simp [hclosed])
    rw [hmend, ← hinside]
    exact ⟨e.node.kind_mend, rfl, rfl, Node.closed_mend h, by simp [hclosed], fun _ => rfl,
      fun _ => rfl⟩

/-- The value with one `)` behind it for each of its open calls. -/
def Text.withEnds (t : Text) : Text :=
  t ++ List.replicate ((Forest.parse t).layout.entries.countP Entry.isOpenCall) ')'

/-- When no string and no comment of a value lacks its end and no backslash waits for a character,
writing the missing `)` behind the value gives every call its end and changes nothing else. -/
theorem layout_withEnds {t : Text}
    (hends : ∀ (i : Nat) (e : Entry), (Forest.parse t).layout.entries[i]? = some e →
      e.node.kind = .quoted ∨ e.node.kind = .comment → e.node.closed = true)
    (hescape : ¬ Odd (trailingBackslashes t)) :
    (Forest.parse (withEnds t)).layout.entries.size = (Forest.parse t).layout.entries.size ∧
      (Forest.parse (withEnds t)).layout.roots = (Forest.parse t).layout.roots ∧
      ∀ (i : Nat) (e : Entry), (Forest.parse t).layout.entries[i]? = some e →
        ∃ e', (Forest.parse (withEnds t)).layout.entries[i]? = some e' ∧
          (Forest.parse t).layout.Mended (byteLength t) i e e' := by
  have hmendable : (Forest.parse t).Mendable := by
    refine Forest.mendable_of_entries fun e (he : e ∈ (Forest.parse t).entriesFrom 0 0) => ?_
    obtain ⟨i, hi⟩ := List.getElem?_of_mem he
    exact hends i e (by simpa [Forest.layout_eq] using hi)
  have hparse : Forest.parse (withEnds t) = (Forest.parse t).mend := by
    rw [withEnds, ← Array.countP_toList, Forest.layout_eq, Forest.countP_entriesFrom,
      Forest.parse_mend hmendable (Nat.not_odd_iff_even.1 hescape)]
  have hentries : (Forest.parse (withEnds t)).layout.entries.toList =
      (Forest.parse t).layout.entries.toList.map (Entry.mend (byteLength t)) := by
    rw [hparse, Forest.layout_eq, Forest.layout_eq]
    refine Forest.entriesFrom_mend (Forest.stands_parse t) hmendable ?_
    rw [Forest.text_parse, Nat.zero_add]
  refine ⟨?_, ?_, fun i e he => ⟨e.mend (byteLength t), ?_, ?_⟩⟩
  · rw [← Array.length_toList, hentries, List.length_map, Array.length_toList]
  · rw [hparse, Forest.layout_eq, Forest.layout_eq, Forest.rootsFrom_mend]
  · rw [← Array.getElem?_toList, hentries, List.getElem?_map, Array.getElem?_toList, he]
    rfl
  · exact Layout.mended_mend _ (hends i e he) (Layout.openInside_eq he)

/-- A closed call, and behind it an open address whose `)` is escaped, both in an open call. -/
theorem layout_withEnds_of_nested :
    (Forest.parse (withEnds "f(g(1)/url( a\\)b".toList)).layout.roots = [5] ∧
      ∃ e, (Forest.parse (withEnds "f(g(1)/url( a\\)b".toList)).layout.entries[5]? = some e ∧
        e.inner = ⟨2, 17⟩ ∧ e.source = ⟨0, 18⟩ ∧ e.children = [1, 2, 4] := by
  have hends : ∀ e ∈ (Forest.parse "f(g(1)/url( a\\)b".toList).layout.entries.toList,
      e.node.kind = .quoted ∨ e.node.kind = .comment → e.node.closed = true := by decide +kernel
  have he : (Forest.parse "f(g(1)/url( a\\)b".toList).layout.entries[5]? =
      some (Forest.callEntry 0 0 ['f'] (Forest.parse "g(1)/url( a\\)b".toList) false) := by
    decide +kernel
  have hinside : (Forest.parse "f(g(1)/url( a\\)b".toList).layout.openInside 5 = 1 := by
    rw [Layout.openInside_eq he]
    decide +kernel
  obtain ⟨-, hroots, hentries⟩ := layout_withEnds
    (fun i e hi => hends e (List.mem_of_getElem? (by rwa [Array.getElem?_toList])))
    (by decide : ¬ Odd (trailingBackslashes "f(g(1)/url( a\\)b".toList))
  obtain ⟨e, hmended, h⟩ := hentries 5 _ he
  have hlen : byteLength "f(g(1)/url( a\\)b".toList = 16 := by decide
  refine ⟨hroots.trans (by decide +kernel), e, hmended, ?_, ?_, ?_⟩
  · rw [h.inner rfl, hinside, hlen]
    rfl
  · rw [h.source rfl, hinside, hlen]
    rfl
  · rw [h.children]
    decide +kernel

end CallLint
