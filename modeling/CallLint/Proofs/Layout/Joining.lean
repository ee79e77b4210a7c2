import CallLint.Proofs.Forest.Joining
import CallLint.Proofs.Layout.Walk

/-!
# The layout of two texts with a divider between them

* `entriesFrom_append`, `rootsFrom_append`: the entries of forests in a row.
* `layout_append_divider`: the layout of the whole is that of the first text, an entry for the
  divider, and that of the second text at another place; what is found in the whole is what is found
  in the first text, and then what is found in the second one.
-/

namespace CallLint

open Text

namespace Forest

variable {f g : Forest} {base pos : Nat}

theorem rootsFrom_append (f g : Forest) (base : Nat) :
    (f.append g).rootsFrom base = f.rootsFrom base ++ g.rootsFrom (base + f.size) := by
  induction f generalizing base with
  | nil => rfl
  | leaf part rest ih =>
    rw [append, rootsFrom, rootsFrom, size, ih, List.cons_append]
    congr 3
    omega
  | call name inside closed rest _ ih =>
    rw [append, rootsFrom, rootsFrom, size, ih, List.cons_append]
    congr 3
    omega

/-- The entries of forests in a row stand in a row. -/
theorem entriesFrom_append (f g : Forest) (base pos : Nat) :
    (f.append g).entriesFrom base pos =
      f.entriesFrom base pos ++ g.entriesFrom (base + f.size) (pos + byteLength f.text) := by
  induction f generalizing base pos with
  | nil => rfl
  | leaf part rest ih =>
    have hsize : base + part.wordCount + 1 + rest.size = base + (leaf part rest).size := by
      rw [size]
      omega
    have hpos : pos + byteLength part.text + byteLength rest.text =
        pos + byteLength (leaf part rest).text := by
      rw [text_leaf, byteLength_append]
      omega
    rw [append, entriesFrom, entriesFrom, ih, hsize, hpos, List.append_assoc, List.cons_append]
  | call name inside closed rest _ ih =>
    have hsize : base + inside.size + 1 + rest.size =
        base + (call name inside closed rest).size := by
      rw [size]
      omega
    have hpos : (callEntry base pos name inside closed).source.stop + byteLength rest.text =
        pos + byteLength (call name inside closed rest).text := by
      rw [byteLength_text_call]
      simp only [callEntry, Leaf.innerSpan]
      omega
    simp only [append, entriesFrom, ih, hsize, hpos, List.append_assoc, List.cons_append]

/-- Every node of the top level has an entry. -/
theorem exists_entry_of_mem_nodes {n : Node} (h : n ∈ f.nodes) (base pos : Nat) :
    ∃ e ∈ f.entriesFrom base pos, e.node = n := by
  induction f generalizing base pos with
  | nil => cases h
  | leaf part rest ih =>
    rw [entriesFrom]
    rcases List.mem_cons.1 h with rfl | h
    · exact ⟨part.entry base pos, by simp, part.entry_node base pos⟩
    · obtain ⟨e, he, hnode⟩ := ih h (base + part.wordCount + 1) (pos + byteLength part.text)
      exact ⟨e, by simp [he], hnode⟩
  | call name inside closed rest _ ih =>
    rw [entriesFrom]
    rcases List.mem_cons.1 h with rfl | h
    · exact ⟨callEntry base pos name inside closed, by simp, rfl⟩
    · obtain ⟨e, he, hnode⟩ := ih h (base + inside.size + 1)
        (callEntry base pos name inside closed).source.stop
      exact ⟨e, by simp [he], hnode⟩

end Forest

/-- The entry of a divider that stands at the given byte. -/
def Entry.ofDivider (mark : Char) (pos : Nat) : Entry :=
  .ofLeaf (.divider mark) ⟨pos, pos + 1⟩ ⟨pos, pos + 1⟩

theorem Leaf.entry_divider {mark : Char} (h : isDivider mark = true) (base pos : Nat) :
    (Leaf.divider mark).entry base pos = Entry.ofDivider mark pos ∧
      byteLength (Leaf.divider mark).text = 1 := by
  have hsize : mark.utf8Size = 1 := by
    rcases Token.isDivider_iff.1 h with rfl | rfl | rfl | rfl
    all_goals decide
  simp [entry, Entry.ofDivider, Entry.ofLeaf, text, hsize]

/-- The layout of a forest behind which a divider and another forest follow. -/
theorem Forest.layout_append {mark : Char} (h : isDivider mark = true) (f g : Forest) :
    (f.append (.leaf (.divider mark) g)).layout =
      ⟨f.layout.entries ++ #[Entry.ofDivider mark (byteLength f.text)] ++
          g.layout.entries.map (Entry.shift (byteLength f.text + 1) (f.layout.entries.size + 1)),
        f.layout.roots ++ f.layout.entries.size ::
          g.layout.roots.map (· + (f.layout.entries.size + 1)),
        byteLength f.text + 1 + byteLength g.text⟩ := by
  have hsize : f.layout.entries.size = f.size := by simp [layout_eq]
  obtain ⟨hentry, hlen⟩ := Leaf.entry_divider h f.size (byteLength f.text)
  have hentries : g.entriesFrom (f.size + 1) (byteLength f.text + 1) =
      (g.entriesFrom 0 0).map (Entry.shift (byteLength f.text + 1) (f.size + 1)) := by
    rw [← entriesFrom_shift, Nat.zero_add, Nat.zero_add]
  have hroots : g.rootsFrom (f.size + 1) = (g.rootsFrom 0).map (· + (f.size + 1)) := by
    rw [← rootsFrom_shift, Nat.zero_add]
  have hwords : (Leaf.divider mark).words (byteLength f.text) = [] := rfl
  have hcount : (Leaf.divider mark).wordCount = 0 := rfl
  rw [hsize]
  simp only [layout_eq, entriesFrom_append, rootsFrom_append, text_append, text_leaf,
    byteLength_append, entriesFrom, rootsFrom, hwords, hcount, hentry, hlen, hentries, hroots,
    Nat.zero_add, Nat.add_zero, Nat.add_assoc, List.nil_append]
  simp

/-- When the first of two texts is finished and a divider other than `/` stands between them, the
second one is read as if it stood alone, whatever it is. The layout of the whole is that of the
first text, the divider, and the layout of the second text at another place. What is found in the
whole is what is found in each of them. -/
theorem layout_append_divider {a : Text} {d : Char} (hd : d ∈ [',', ';', ':'])
    (hclosed : ∀ e ∈ (Forest.parse a).layout.entries, e.node.closed = true)
    (ha : ¬ Odd (trailingBackslashes a)) (b : Text) :
    (Forest.parse (a ++ d :: b)).layout.entries =
      (Forest.parse a).layout.entries ++ #[Entry.ofDivider d (byteLength a)] ++
        (Forest.parse b).layout.entries.map
          (Entry.shift (byteLength a + 1) ((Forest.parse a).layout.entries.size + 1)) ∧
    (Forest.parse (a ++ d :: b)).layout.roots =
      (Forest.parse a).layout.roots ++ (Forest.parse a).layout.entries.size ::
        (Forest.parse b).layout.roots.map (· + ((Forest.parse a).layout.entries.size + 1)) ∧
    ∀ (c : Config) (property : Text),
      c.lint property (a ++ d :: b) = c.lint property a ++ c.lint property b := by
  obtain ⟨hmark, hslash⟩ : isDivider d = true ∧ d ≠ '/' := by
    rcases (by simpa using hd : d = ',' ∨ d = ';' ∨ d = ':') with rfl | rfl | rfl
    all_goals decide
  have hnodes : ∀ n ∈ (Forest.parse a).nodes, n.closed = true := by
    intro n hn
    obtain ⟨e, he, rfl⟩ := Forest.exists_entry_of_mem_nodes hn 0 0
    exact hclosed e (by simpa [Forest.layout_eq] using he)
  have hparse := Forest.parse_append_divider hmark hslash hnodes (Nat.not_odd_iff_even.1 ha) b
  have hlayout := Forest.layout_append hmark (Forest.parse a) (Forest.parse b)
  rw [Forest.text_parse] at hlayout
  rw [hparse, hlayout]
  refine ⟨rfl, rfl, fun c property => ?_⟩
  rw [Config.lint_eq_calls, Config.lint_eq_calls, Config.lint_eq_calls, hparse,
    Forest.calls_append, List.flatMap_append]
  rfl

/-- An address and a pair of backslashes in front of the divider, a call without its end behind. -/
theorem layout_append_divider_of_backslashes :
    (Forest.parse "f(url(a)) b\\\\".toList).layout.entries.size = 5 ∧
      (Forest.parse ("f(url(a)) b\\\\".toList ++ ',' :: ")g(1".toList)).layout.roots =
        [2, 3, 4, 5, 6, 8] := by
  have hclosed : ∀ e ∈ (Forest.parse "f(url(a)) b\\\\".toList).layout.entries,
      e.node.closed = true := by decide +kernel
  have ha : ¬ Odd (trailingBackslashes "f(url(a)) b\\\\".toList) := by decide +kernel
  obtain ⟨-, hroots, -⟩ := layout_append_divider (d := ',') (by decide) hclosed ha ")g(1".toList
  exact ⟨by decide +kernel, hroots.trans (by decide +kernel)⟩

end CallLint
