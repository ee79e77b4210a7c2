import CallLint.Forest.Tally
import CallLint.Proofs.Forest.Case
import CallLint.Proofs.Layout.Numbering
import Mathlib.Data.List.Forall2

/-!
# ASCII case and layouts

The layout of a value in lower case has the entries of the layout of the value, with their text in
lower case: numbers and places are the same.

* `entriesFrom_lower`, `rootsFrom_lower`: the entries of a forest in lower case.
* `layout_lowerAscii`: the layout of a value in lower case.
* `sameShape_parse`: values that are equal in lower case have layouts of the same shape.
-/

namespace CallLint

open Text

/-- Lists with the same values of a function correspond item by item. -/
theorem forall₂_of_map_eq {α β : Type} {f : α → β} {R : α → α → Prop} {l l' : List α}
    (h : l.map f = l'.map f) (hR : ∀ a b, f a = f b → R a b) : List.Forall₂ R l l' := by
  rw [← List.forall₂_eq_eq_eq, List.forall₂_map_left_iff, List.forall₂_map_right_iff] at h
  exact h.imp hR

/-- The entry with all its text in lower case. -/
def Entry.lower (e : Entry) : Entry := { e with node := e.node.lower }

namespace Leaf

@[simp] theorem wordCount_lower (part : Leaf) : part.lower.wordCount = part.wordCount := by
  cases part with
  | address name body closed => simp [lower, wordCount, trim_lowerAscii]
  | _ => rfl

theorem innerSpan_lowerAscii (pos : Nat) (name body : Text) :
    innerSpan pos (lowerAscii name) (lowerAscii body) = innerSpan pos name body := by
  simp only [innerSpan, byteLength_lowerAscii]

theorem trimSpan_lowerAscii (pos : Nat) (t : Text) :
    trimSpan pos (lowerAscii t) = trimSpan pos t := by
  simp only [trimSpan, trimStart_lowerAscii, trim_lowerAscii, byteLength_lowerAscii]

theorem words_lower (pos : Nat) (part : Leaf) :
    part.lower.words pos = (part.words pos).map Entry.lower := by
  cases part with
  | address name body closed =>
    simp only [lower, words, innerSpan_lowerAscii, trimSpan_lowerAscii, trim_lowerAscii,
      lowerAscii_eq_nil_iff]
    split <;> rfl
  | _ => rfl

theorem entry_lower (base pos : Nat) (part : Leaf) :
    part.lower.entry base pos = (part.entry base pos).lower := by
  have hsource := congrArg byteLength part.text_lower
  rw [byteLength_lowerAscii] at hsource
  cases part with
  | address name body closed =>
    simp only [lower] at hsource
    simp only [lower, entry, Entry.lower, Node.lower, innerSpan_lowerAscii, trim_lowerAscii,
      lowerAscii_eq_nil_iff, byteLength_lowerAscii, hsource]
  | _ =>
    simp only [lower] at hsource
    simp only [lower, entry, Entry.lower, Entry.ofLeaf, Node.lower, byteLength_lowerAscii, hsource]

end Leaf

namespace Forest

@[simp] theorem size_lower (f : Forest) : f.lower.size = f.size := by
  induction f with
  | nil => rfl
  | leaf part rest ih => simp [lower, size, ih]
  | call name inside closed rest ihInside ih => simp [lower, size, ihInside, ih]

theorem rootsFrom_lower (base : Nat) (f : Forest) : f.lower.rootsFrom base = f.rootsFrom base := by
  induction f generalizing base with
  | nil => rfl
  | leaf part rest ih => simp [lower, rootsFrom, ih]
  | call name inside closed rest _ ih => simp [lower, rootsFrom, ih]

theorem callEntry_lower (base pos : Nat) (name : Text) (inside : Forest) (closed : Bool) :
    callEntry base pos (lowerAscii name) inside.lower closed =
      (callEntry base pos name inside closed).lower := by
  simp only [callEntry, Entry.lower, Node.lower, text_lower, Leaf.innerSpan_lowerAscii,
    byteLength_lowerAscii, rootsFrom_lower]

theorem entriesFrom_lower (base pos : Nat) (f : Forest) :
    f.lower.entriesFrom base pos = (f.entriesFrom base pos).map Entry.lower := by
  induction f generalizing base pos with
  | nil => rfl
  | leaf part rest ih =>
    rw [lower, entriesFrom, entriesFrom, Leaf.words_lower, Leaf.entry_lower, Leaf.wordCount_lower,
      Leaf.text_lower, byteLength_lowerAscii, ih, List.map_append, List.map_cons]
  | call name inside closed rest ihInside ih =>
    simp only [lower, entriesFrom, callEntry_lower, size_lower, ihInside, ih, List.map_append,
      List.map_cons]
    rfl

end Forest

theorem Node.kind_lower (n : Node) : n.lower.kind = n.kind := by
  rcases n with part | ⟨name, inside, closed⟩
  · cases part <;> rfl
  · rfl

namespace Layout

/-- Two entries are of one kind, both have their end or lack it, and they stand at one place. -/
structure SameShape (d e : Entry) : Prop where
  kind : d.node.kind = e.node.kind
  closed : d.node.closed = e.node.closed
  value : d.value = e.value
  source : d.source = e.source
  inner : d.inner = e.inner
  children : d.children = e.children

theorem sameShape_of_lower_eq {d e : Entry} (h : d.lower = e.lower) : SameShape d e := by
  rw [Entry.lower, Entry.lower, Entry.mk.injEq] at h
  obtain ⟨hnode, hvalue, hsource, hinner, hchildren⟩ := h
  have hkind := congrArg Node.kind hnode
  have hclosed := congrArg Node.closed hnode
  rw [Node.kind_lower, Node.kind_lower] at hkind
  rw [Node.closed_lower, Node.closed_lower] at hclosed
  exact ⟨hkind, hclosed, hvalue, hsource, hinner, hchildren⟩

theorem layout_lowerAscii (t : Text) :
    (Forest.parse (lowerAscii t)).layout.roots = (Forest.parse t).layout.roots ∧
      (Forest.parse (lowerAscii t)).layout.entries.toList =
        (Forest.parse t).layout.entries.toList.map Entry.lower := by
  rw [Forest.parse_lowerAscii, Forest.layout_eq, Forest.layout_eq]
  exact ⟨Forest.rootsFrom_lower 0 _, Forest.entriesFrom_lower 0 0 _⟩

/-- Values that are equal in lower case have layouts of the same shape. -/
theorem sameShape_parse {t t' : Text} (h : lowerAscii t = lowerAscii t') :
    (Forest.parse t).layout.roots = (Forest.parse t').layout.roots ∧
      List.Forall₂ SameShape (Forest.parse t).layout.entries.toList
        (Forest.parse t').layout.entries.toList := by
  obtain ⟨hroots, hentries⟩ := layout_lowerAscii t
  obtain ⟨hroots', hentries'⟩ := layout_lowerAscii t'
  rw [h] at hroots hentries
  refine ⟨hroots.symm.trans hroots', ?_⟩
  exact forall₂_of_map_eq (hentries.symm.trans hentries') fun _ _ => sameShape_of_lower_eq

end Layout

end CallLint
