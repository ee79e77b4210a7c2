import CallLint.Proofs.Forest.Canonical
import Mathlib.Data.List.Chain

/-!
# Neighbouring nodes

Where one node of a value ends, the next one begins with a character that does not belong to the
first. So neighbours on one level are never two pieces of what could be read as one node. The one
exception is a `)` outside all calls: it is a word by itself, whatever stands around it.

* `Stands.exists_begins`: with which characters a node begins.
* `Stands.mayMeet`: what a leaf says of the node behind it.
* `Stands.isChain_nodes`: what this says of all neighbours on the level of a forest.
-/

namespace CallLint

open Text

/-- A word of one `)`. -/
def Node.isStray (n : Node) : Bool := n = .leaf (.word [')'])

theorem Node.isStray_iff {n : Node} : n.isStray = true ↔ n.kind = .word ∧ n.text = [')'] := by
  cases n with
  | leaf part => cases part <;> simp [isStray, kind, Leaf.text]
  | call name inside closed => simp [isStray, kind]

/-- The second node may stand right behind the first one. Outside all calls a `)` may stand
anywhere. -/
def Node.MayMeet (nested : Bool) (m n : Node) : Prop :=
  m.MayPrecede n ∨ nested = false ∧ (m.isStray = true ∨ n.isStray = true)

namespace Node.MayMeet

variable {m n : Node} {nested : Bool}

theorem space (h : m.MayMeet nested n) (hm : m.kind = .space) : n.kind ≠ .space := by
  intro hn
  obtain hprecede | ⟨-, hstray | hstray⟩ := h
  · cases m with
    | leaf part =>
      cases part with
      | space t => exact hprecede hn
      | _ => cases hm
    | call name inside closed => cases hm
  · rw [(isStray_iff.1 hstray).1] at hm
    cases hm
  · rw [(isStray_iff.1 hstray).1] at hn
    cases hn

theorem word (h : m.MayMeet nested n) (hm : m.kind = .word) (hn : n.kind = .word ∨ n.kind = .call) :
    nested = false ∧ (m.isStray = true ∨ n.isStray = true) := by
  refine h.resolve_left fun hprecede => ?_
  cases m with
  | leaf part =>
    cases part with
    | word t => exact not_or.2 hprecede hn
    | _ => cases hm
  | call name inside closed => cases hm

theorem slash (h : m.MayMeet nested n) (hm : m.kind = .divider) (htext : m.text = ['/']) :
    n.text.head? ≠ some '*' := by
  obtain hprecede | ⟨-, hstray | hstray⟩ := h
  · cases m with
    | leaf part =>
      cases part with
      | divider mark =>
        obtain rfl : mark = '/' := by simpa [Leaf.text] using htext
        exact hprecede rfl
      | _ => cases hm
    | call name inside closed => cases hm
  · rw [(isStray_iff.1 hstray).1] at hm
    cases hm
  · rw [(isStray_iff.1 hstray).2]
    simp

end Node.MayMeet

/-- What the first character of a node tells: white space begins with white space, and a word or a
call with a character that ends no word, or with its `(`. -/
structure Node.Begins (nested : Bool) (n : Node) (c : Char) : Prop where
  head : n.text.head? = some c
  space : n.kind = .space → isBlank c = true
  name : n.kind = .word ∨ n.kind = .call →
    nested = false ∧ n.isStray = true ∨ endsWord c = false ∨ c = '('

theorem Node.Begins.of_mark {n : Node} {c : Char} {nested : Bool} (hhead : n.text.head? = some c)
    (hkind : n.kind = .quoted ∨ n.kind = .comment ∨ n.kind = .divider) : n.Begins nested c := by
  refine ⟨hhead, fun h => ?_, fun h => ?_⟩
  · simp [h] at hkind
  · rcases h with h | h
    · simp [h] at hkind
    · simp [h] at hkind

theorem exists_head_of_name {name : Text} (h : Units endsWord name) (t : Text) :
    ∃ c, (name ++ '(' :: t).head? = some c ∧ (endsWord c = false ∨ c = '(') := by
  cases name with
  | nil => exact ⟨'(', rfl, .inr rfl⟩
  | cons c name => exact ⟨c, rfl, .inl (h.head Token.endsWord_backslash)⟩

theorem Leaf.Stands.exists_begins {part : Leaf} {after : Text} (h : part.Stands after)
    (nested : Bool) : ∃ c, (Node.leaf part).Begins nested c := by
  cases part with
  | space t =>
    obtain ⟨hne, hblank, -⟩ := h
    obtain ⟨c, t, rfl⟩ := List.exists_cons_of_ne_nil hne
    exact ⟨c, by simp [Leaf.text], fun _ => hblank c List.mem_cons_self, by simp [Node.kind]⟩
  | word t =>
    obtain ⟨hne, hruns, -⟩ := h
    obtain ⟨c, t, rfl⟩ := List.exists_cons_of_ne_nil hne
    exact ⟨c, by simp [Leaf.text], by simp [Node.kind],
      fun _ => .inr (.inl (hruns.head Token.endsWord_backslash))⟩
  | quoted mark body closed => exact ⟨mark, .of_mark (by simp [Leaf.text]) (.inl rfl)⟩
  | comment body closed => exact ⟨'/', .of_mark (by simp [Leaf.text]) (.inr (.inl rfl))⟩
  | divider mark => exact ⟨mark, .of_mark (by simp [Leaf.text]) (.inr (.inr rfl))⟩
  | address name body closed =>
    obtain ⟨c, hhead, hname⟩ := exists_head_of_name (Token.units_of_isAddressName h.1)
      (body ++ if closed then [')'] else [])
    exact ⟨c, by simpa [Leaf.text] using hhead, by simp [Node.kind], fun _ => .inr hname⟩

namespace Forest.Stands

variable {part : Leaf} {rest f : Forest} {nested : Bool} {after : Text}

/-- With which character the first node of a forest begins, and the forest with it. -/
theorem exists_begins (h : f.Stands nested after) {n : Node} (hn : n ∈ f.nodes.head?) :
    ∃ c, n.Begins nested c ∧ (f.text ++ after).head? = some c := by
  cases f with
  | nil => cases hn
  | leaf part rest =>
    obtain rfl : .leaf part = n := by simpa [nodes] using hn
    have hbegins : ∃ c, (Node.leaf part).Begins nested c := by
      obtain hpart | ⟨hnested, rfl⟩ := h.1
      · exact hpart.exists_begins nested
      · exact ⟨')', by simp [Leaf.text], by simp [Node.kind], fun _ => .inl ⟨hnested, rfl⟩⟩
    obtain ⟨c, hc⟩ := hbegins
    refine ⟨c, hc, ?_⟩
    have hhead := hc.head
    rw [Node.text_leaf] at hhead
    rw [text_leaf, List.append_assoc]
    exact head?_append_of_mem hhead _
  | call name inside closed rest =>
    obtain rfl : .call name inside closed = n := by simpa [nodes] using hn
    obtain ⟨c, hhead, hname⟩ := exists_head_of_name h.1.1
      (inside.text ++ if closed then [')'] else [])
    refine ⟨c, ⟨by simpa using hhead, by simp [Node.kind], fun _ => .inr hname⟩, ?_⟩
    have hfront := head?_append_of_mem hhead (rest.text ++ after)
    simpa using hfront

/-- What a leaf says of the node behind it. -/
theorem mayMeet (h : (Forest.leaf part rest).Stands nested after) :
    ∀ n ∈ rest.nodes.head?, (Node.leaf part).MayMeet nested n := by
  intro n hn
  obtain ⟨hpart | ⟨hnested, rfl⟩, hrest⟩ := h
  · obtain ⟨c, hc, hhead⟩ := hrest.exists_begins hn
    cases part with
    | space t =>
      refine .inl fun hspace => ?_
      have hblank := hpart.2.2 c hhead
      rw [hc.space hspace] at hblank
      cases hblank
    | word t =>
      by_cases hstray : nested = false ∧ n.isStray = true
      · exact .inr ⟨hstray.1, .inr hstray.2⟩
      -- the word goes up to a character that ends it and is no `(`
      obtain ⟨-, ⟨-, hends⟩ | ⟨-, hnil⟩, hopen⟩ := hpart
      · have hnot : ¬ (n.kind = .word ∨ n.kind = .call) := by
          intro hkind
          rcases hc.name hkind with hs | hname | rfl
          · exact hstray hs
          · rw [hends c hhead] at hname
            cases hname
          · exact hopen hhead
        exact .inl (not_or.1 hnot)
      · rw [hnil] at hhead
        cases hhead
    | divider mark =>
      refine .inl fun hslash hstar => hpart.2 hslash ?_
      rwa [hhead, ← hc.head]
    | _ => exact .inl trivial
  · exact .inr ⟨hnested, .inl rfl⟩

/-- Neighbours on the level of a forest are never two pieces of one node. -/
theorem isChain_nodes (h : f.Stands nested after) : f.nodes.IsChain (Node.MayMeet nested) := by
  induction f generalizing after with
  | nil => exact .nil
  | leaf part rest ih => exact List.isChain_cons.2 ⟨h.mayMeet, ih h.2⟩
  | call name inside closed rest _ ih =>
    exact List.isChain_cons.2 ⟨fun n _ => .inl trivial, ih h.2.2.1⟩

end Forest.Stands

end CallLint
