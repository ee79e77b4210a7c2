import CallLint.Proofs.Forest.Reading
import CallLint.Proofs.Layout.Numbering

/-!
# The parts of a forest

`Forest.Within f before first g after` says that the nodes of `g` are neighbours somewhere in `f`,
up to the end of their level: `before` is the text in front of them, `first` is the number of
entries in front of theirs, and `after` is the text behind them.

* `exists_within`: every number is that of the first node of such a part, or of the word inside it.
* `exists_part`: so is every entry of a layout.
* `within_parse`: where the parts of a value stand, in its text and in its layout.
-/

namespace CallLint

open Text

namespace Forest

/-- The nodes of the fourth argument are neighbours in the first, up to the end of their level. -/
inductive Within : Forest → Text → Nat → Forest → Text → Prop
  | all (f : Forest) : Within f [] 0 f []
  | afterLeaf {part : Leaf} {rest g : Forest} {before after : Text} {first : Nat}
      (h : Within rest before first g after) :
      Within (.leaf part rest) (part.text ++ before) (part.wordCount + 1 + first) g after
  | inside {name : Text} {inside rest g : Forest} {closed : Bool} {before after : Text}
      {first : Nat} (h : Within inside before first g after) :
      Within (.call name inside closed rest) (name ++ '(' :: before) first g
        (after ++ ((if closed then [')'] else []) ++ rest.text))
  | afterCall {name : Text} {inside rest g : Forest} {closed : Bool} {before after : Text}
      {first : Nat} (h : Within rest before first g after) :
      Within (.call name inside closed rest)
        (name ++ '(' :: (inside.text ++ ((if closed then [')'] else []) ++ before)))
        (inside.size + 1 + first) g after

variable {f g : Forest} {before after : Text} {first : Nat}

theorem Within.text_eq (h : Within f before first g after) :
    f.text = before ++ (g.text ++ after) := by
  induction h with
  | all f => simp
  | afterLeaf _ ih => simp [ih]
  | inside _ ih => simp [ih]
  | afterCall _ ih => simp [ih]

/-- A part of a forest that stands, stands in front of the text behind it. -/
theorem Within.stands (h : Within f before first g after) {nested : Bool} {behind : Text}
    (hf : f.Stands nested behind) : ∃ nested', g.Stands nested' (after ++ behind) := by
  induction h generalizing nested behind with
  | all f => exact ⟨nested, hf⟩
  | afterLeaf _ ih => exact ih hf.2
  | inside _ ih =>
    obtain ⟨nested', hg⟩ := ih hf.2.1
    exact ⟨nested', by simpa using hg⟩
  | afterCall _ ih => exact ih hf.2.2.1

/-- The entries of a part of a forest stand in a row. -/
theorem Within.holds (h : Within f before first g after) {l : Layout} {base pos : Nat}
    (hf : l.Holds f base pos) : l.Holds g (base + first) (pos + byteLength before) := by
  induction h generalizing base pos with
  | all f => exact hf
  | afterLeaf _ ih =>
    have hg := ih hf.leaf.2.2
    simpa [Nat.add_assoc] using hg
  | inside _ ih =>
    have hg := ih hf.call.2.1
    simpa [Nat.add_assoc, Char.utf8Size] using hg
  | @afterCall name inside rest g closed before after first _ ih =>
    have hg := ih hf.call.2.2
    have hpos : byteLength (name ++ '(' :: (inside.text ++
        ((if closed then [')'] else []) ++ before))) =
        byteLength name + 1 + byteLength inside.text + (if closed then 1 else 0) +
          byteLength before := by
      cases closed <;> simp [Char.utf8Size] <;> omega
    rw [hpos]
    simpa [Nat.add_assoc] using hg

/-- The entries of a part are among those of the whole. -/
theorem Within.le_size (h : Within f before first g after) : first + g.size ≤ f.size := by
  induction h with
  | all f => simp
  | afterLeaf _ ih =>
    simp only [size]
    omega
  | inside _ ih =>
    simp only [size]
    omega
  | afterCall _ ih =>
    simp only [size]
    omega

/-- A part of a part is a part of the whole. -/
theorem Within.trans {g' : Forest} {before' after' : Text} {first' : Nat}
    (h : Within f before first g after) (h' : Within g before' first' g' after') :
    Within f (before ++ before') (first + first') g' (after' ++ after) := by
  induction h with
  | all f => simpa using h'
  | afterLeaf _ ih => simpa [Nat.add_assoc] using Within.afterLeaf (ih h')
  | @inside name inside rest g closed before after first _ ih =>
    have hi : Within (.call name inside closed rest) _ _ _ _ := .inside (ih h')
    simpa using hi
  | afterCall _ ih => simpa [Nat.add_assoc] using Within.afterCall (ih h')

/-- The nodes inside a call are a part of the forest around it. -/
theorem Within.inside_call {name : Text} {inside rest : Forest} {closed : Bool}
    (h : Within f before first (.call name inside closed rest) after) :
    Within f (before ++ (name ++ ['('])) first inside
      ((if closed then [')'] else []) ++ (rest.text ++ after)) := by
  have hi : Within (.call name inside closed rest) _ _ _ _ := .inside (.all inside)
  simpa using h.trans hi

/-- The number is that of the first node of the forest, or of the word inside it. -/
def HeadNumber (first : Nat) (i : Nat) : Forest → Prop
  | .nil => False
  | .leaf part _ => first ≤ i ∧ i ≤ first + part.wordCount
  | .call _ inside _ _ => i = first + inside.size

theorem HeadNumber.shift {i : Nat} (n : Nat) (h : g.HeadNumber first i) :
    g.HeadNumber (n + first) (n + i) := by
  cases g with
  | nil => exact h
  | leaf part rest =>
    obtain ⟨hfirst, hi⟩ := h
    exact ⟨by omega, by omega⟩
  | call name inside closed rest =>
    simp only [HeadNumber] at h ⊢
    omega

/-- Every number is that of the first node of some part, or of the word inside it. -/
theorem exists_within (f : Forest) {i : Nat} (hi : i < f.size) :
    ∃ before first g after, Within f before first g after ∧ g.HeadNumber first i := by
  induction f generalizing i with
  | nil => simp [size] at hi
  | leaf part rest ih =>
    rw [size] at hi
    by_cases hhead : i ≤ part.wordCount
    · exact ⟨[], 0, _, [], .all _, Nat.zero_le i, by omega⟩
    · obtain ⟨j, rfl⟩ := Nat.exists_eq_add_of_le (Nat.lt_of_not_ge hhead)
      obtain ⟨before, first, g, after, hg, hn⟩ := ih (i := j) (by omega)
      exact ⟨_, _, g, _, .afterLeaf hg, hn.shift _⟩
  | call name inside closed rest ihInside ih =>
    rw [size] at hi
    rcases Nat.lt_trichotomy i inside.size with hlt | heq | hgt
    · obtain ⟨before, first, g, after, hg, hn⟩ := ihInside hlt
      exact ⟨_, _, g, _, .inside hg, hn⟩
    · exact ⟨[], 0, _, [], .all _, by simpa [HeadNumber] using heq⟩
    · obtain ⟨j, rfl⟩ := Nat.exists_eq_add_of_lt hgt
      obtain ⟨before, first, g, after, hg, hn⟩ := ih (i := j) (by omega)
      rw [Nat.add_right_comm]
      exact ⟨_, _, g, _, .afterCall hg, hn.shift _⟩

/-! ## The parts of a value -/

/-- Where a part of a value stands, in its text and in its layout. -/
theorem within_parse {t : Text} (h : Within (parse t) before first g after) :
    t = before ++ (g.text ++ after) ∧
      (parse t).layout.Holds g first (byteLength before) ∧ ∃ nested, g.Stands nested after := by
  refine ⟨?_, ?_, ?_⟩
  · rw [← h.text_eq, text_parse]
  · simpa using h.holds (Layout.holds_layout (parse t))
  · simpa using h.stands (stands_parse t)

/-- Every entry of a layout is that of the first node of some part, or of the word inside it, which
is numbered right before it. -/
theorem exists_numbered_part {f : Forest} {i : Nat} {e : Entry}
    (h : f.layout.entries[i]? = some e) :
    (∃ before first part rest after, Within f before first (.leaf part rest) after ∧
      (i = first + part.wordCount ∧ e = part.entry first (byteLength before) ∨
        ∃ j < part.wordCount, i = first + j ∧ (part.words (byteLength before))[j]? = some e)) ∨
    ∃ before first name inside closed rest after,
      Within f before first (.call name inside closed rest) after ∧ i = first + inside.size ∧
        e = callEntry first (byteLength before) name inside closed := by
  have hi : i < f.size := by
    have hlt := (Array.getElem?_eq_some_iff.1 h).1
    simpa [layout_eq] using hlt
  obtain ⟨before, first, g, after, hg, hn⟩ := exists_within f hi
  have hholds := hg.holds (Layout.holds_layout f)
  rw [Nat.zero_add, Nat.zero_add] at hholds
  cases g with
  | nil => cases hn
  | leaf part rest =>
    obtain ⟨hown, hwords, -⟩ := hholds.leaf
    refine .inl ⟨before, first, part, rest, after, hg, ?_⟩
    obtain ⟨hlo, hhi⟩ := hn
    obtain ⟨j, rfl⟩ := Nat.exists_eq_add_of_le hlo
    rcases Nat.lt_or_ge j part.wordCount with hj | hj
    · rw [hwords j hj] at h
      exact .inr ⟨j, hj, rfl, h⟩
    · obtain rfl : j = part.wordCount := by omega
      rw [hown] at h
      exact .inl ⟨rfl, (Option.some.inj h).symm⟩
  | call name inside closed rest =>
    obtain ⟨hown, -⟩ := hholds.call
    refine .inr ⟨before, first, name, inside, closed, rest, after, hg, hn, ?_⟩
    rw [HeadNumber] at hn
    rw [hn, hown] at h
    exact (Option.some.inj h).symm

/-- Every entry of a layout is that of the first node of some part, or of the word inside it. -/
theorem exists_part {f : Forest} {i : Nat} {e : Entry} (h : f.layout.entries[i]? = some e) :
    (∃ before first part rest after, Within f before first (.leaf part rest) after ∧
      (i = first + part.wordCount ∧ e = part.entry first (byteLength before) ∨
        e ∈ part.words (byteLength before))) ∨
    ∃ before first name inside closed rest after,
      Within f before first (.call name inside closed rest) after ∧ i = first + inside.size ∧
        e = callEntry first (byteLength before) name inside closed := by
  rcases exists_numbered_part h with
    ⟨before, first, part, rest, after, hpart, hown | ⟨j, -, -, hword⟩⟩ | hcall
  · exact .inl ⟨before, first, part, rest, after, hpart, .inl hown⟩
  · exact .inl ⟨before, first, part, rest, after, hpart, .inr (List.mem_of_getElem? hword)⟩
  · exact .inr hcall

end Forest

end CallLint
