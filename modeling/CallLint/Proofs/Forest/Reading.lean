import CallLint.Forest.Reader
import CallLint.Proofs.Token.Standing

/-!
# What reading a value gives

`Forest.Stands nested f after` says, without any reading, that the forest `f` can be followed by
the text `after`: each of its tokens stands in front of the text behind it, only the last call of
a level lacks its `)`, and then nothing follows it, and a `)` is a word only outside all calls.
These conditions describe exactly the forests that reading gives.

* `parse_eq_iff`: reading a text gives the one forest that has this text and stands.
* `Stands.front`, `Stands.alone`: the nodes inside a call stand by themselves, so that
  reading the text between the parentheses gives them again.
-/

namespace CallLint

open Text

namespace Forest

/-- The forest can be followed by the text `after`. Outside all calls a `)` is a word. -/
def Stands (nested : Bool) : Forest → Text → Prop
  | .nil, _ => True
  | .leaf part rest, after =>
    (part.Stands (rest.text ++ after) ∨ nested = false ∧ part = .word [')']) ∧
      rest.Stands nested after
  | .call name inside closed rest, after =>
    (Token.opening name).Stands
        (inside.text ++ ((if closed then [')'] else []) ++ (rest.text ++ after))) ∧
      inside.Stands true ((if closed then [')'] else []) ++ (rest.text ++ after)) ∧
      rest.Stands nested after ∧ (closed = false → rest = .nil ∧ after = [])

end Forest

namespace Growth

/-- Adds the nodes of a finished forest to the innermost level. -/
def append (g : Growth) (f : Forest) : Growth := ⟨f.nodes.reverse ++ g.level, g.opened⟩

@[simp] theorem append_nil (g : Growth) : g.append .nil = g := by
  simp [append, Forest.nodes]

theorem append_leaf (g : Growth) (part : Leaf) (rest : Forest) :
    g.append (.leaf part rest) = (g.push (.leaf part)).append rest := by
  simp [append, push, Forest.nodes]

theorem append_call (g : Growth) (name : Text) (inside : Forest) (closed : Bool)
    (rest : Forest) :
    g.append (.call name inside closed rest) =
      (g.push (.call name inside closed)).append rest := by
  simp [append, push, Forest.nodes]

theorem forest_append (f : Forest) : forest (f.nodes.reverse ++ []) = f := by
  simp [forest]

/-- A `)` makes a call of the nodes read since its `(`. -/
theorem take_closing (g : Growth) (name : Text) (inside : Forest) :
    ((g.take (.opening name)).append inside).take .closing =
      g.push (.call name inside true) := by
  simp [take, append, push, forest]

/-- A call that is open at the end of the text ends there. -/
theorem finish_opening (g : Growth) (name : Text) (inside : Forest) :
    ((g.take (.opening name)).append inside).finish =
      (g.push (.call name inside false)).finish := by
  simp [take, append, push, finish, close, forest]

/-- Reading on over a forest that stands adds its nodes to what has been read. -/
theorem finish_scan {nested : Bool} {f : Forest} {after : Text} (hf : f.Stands nested after)
    {g : Growth} (hg : nested = false → g.opened = []) :
    ((Token.scan (f.text ++ after)).foldl take g).finish =
      ((Token.scan after).foldl take (g.append f)).finish := by
  induction f generalizing nested after g with
  | nil => simp
  | leaf part rest ih =>
    obtain ⟨hpart, hrest⟩ := hf
    rw [append_leaf, ← ih hrest (g := g.push (.leaf part)) hg, Forest.text_leaf, List.append_assoc]
    rcases hpart with hs | ⟨hn, rfl⟩
    · rw [Token.scan_leaf hs]
      rfl
    · rw [Leaf.text, List.singleton_append, Token.scan_closing]
      simp [take, hg hn]
  | call name inside closed rest ihInside ih =>
    obtain ⟨hname, hinside, hrest, hclosed⟩ := hf
    rw [append_call, ← ih hrest (g := g.push (.call name inside closed)) hg]
    have htext : (Forest.call name inside closed rest).text ++ after =
        (Token.opening name).text ++
          (inside.text ++ ((if closed then [')'] else []) ++ (rest.text ++ after))) := by
      simp [Token.text]
    rw [htext, Token.scan_of_stands (.opening name) hname, List.foldl_cons,
      ihInside hinside (by simp)]
    cases closed with
    | true =>
      rw [if_pos rfl, List.singleton_append, Token.scan_closing, List.foldl_cons, take_closing]
    | false =>
      obtain ⟨rfl, rfl⟩ := hclosed rfl
      simpa using finish_opening g name inside

end Growth

namespace Forest

/-- Every text begins with the text of a forest that stands there. Inside a call the forest may
end at a `)`, else it takes all of the text. -/
theorem exists_stands (nested : Bool) (t : Text) :
    ∃ f after, t = text f ++ after ∧ f.Stands nested after ∧
      (after = [] ∨ nested = true ∧ ∃ s, after = ')' :: s) := by
  induction h : t.length using Nat.strongRecOn generalizing nested t with
  | ind n ih =>
    cases t with
    | nil => exact ⟨.nil, [], rfl, trivial, .inl rfl⟩
    | cons c t =>
      have hlt := Token.length_next_lt c t
      have htext := Token.text_next c t
      have hstands := Token.stands_next c t
      generalize Token.next c t = p at hlt htext hstands
      obtain ⟨token, s⟩ := p
      simp only at hlt htext hstands
      rw [← htext]
      cases token with
      | leaf part =>
        obtain ⟨f, after, rfl, hf, hafter⟩ := ih _ (h ▸ hlt) nested s rfl
        exact ⟨.leaf part f, after, by simp [Token.text], ⟨.inl hstands, hf⟩, hafter⟩
      | closing =>
        cases nested with
        | true => exact ⟨.nil, ')' :: s, rfl, trivial, .inr ⟨rfl, s, rfl⟩⟩
        | false =>
          obtain ⟨f, after, rfl, hf, hafter⟩ := ih _ (h ▸ hlt) false s rfl
          exact ⟨.leaf (.word [')']) f, after, by simp [Token.text, Leaf.text],
            ⟨.inr ⟨rfl, rfl⟩, hf⟩, hafter⟩
      | opening name =>
        obtain ⟨inside, behind, rfl, hinside, hbehind⟩ := ih _ (h ▸ hlt) true s rfl
        rcases hbehind with rfl | ⟨-, u, rfl⟩
        · exact ⟨.call name inside false .nil, [], by simp [Token.text],
            ⟨by simpa using hstands, by simpa using hinside, trivial, fun _ => ⟨rfl, rfl⟩⟩,
            .inl rfl⟩
        · obtain ⟨f, after, rfl, hf, hafter⟩ := ih u.length (by simp at hlt h; omega) nested u rfl
          exact ⟨.call name inside true f, after, by simp [Token.text],
            ⟨hstands, hinside, hf, by simp⟩, hafter⟩

theorem parse_of_stands {f : Forest} (h : f.Stands false []) : parse f.text = f := by
  have hf := Growth.finish_scan h (g := Growth.empty) (fun _ => rfl)
  rw [List.append_nil, Token.scan_nil] at hf
  rw [parse, ofTokens, hf, List.foldl_nil, Growth.finish, Growth.append]
  exact Growth.forest_append f

theorem stands_parse (t : Text) : (parse t).Stands false [] := by
  obtain ⟨f, after, rfl, hf, rfl | ⟨hn, -⟩⟩ := exists_stands false t
  · rw [List.append_nil, parse_of_stands hf]
    exact hf
  · cases hn

/-- Reading a text gives the one forest that has this text and stands. -/
theorem parse_eq_iff {t : Text} {f : Forest} :
    parse t = f ↔ f.text = t ∧ f.Stands false [] := by
  constructor
  · rintro rfl
    exact ⟨text_parse t, stands_parse t⟩
  · rintro ⟨rfl, hf⟩
    exact parse_of_stands hf

theorem Stands.leaf_ne_nil {part : Leaf} {rest : Forest} {nested : Bool} {after : Text}
    (h : (Forest.leaf part rest).Stands nested after) : part.text ≠ [] := by
  obtain ⟨hs | ⟨-, rfl⟩, -⟩ := h
  · exact hs.text_ne_nil
  · simp [Leaf.text]

/-! ## The inside of a call -/

/-- A forest that stands before a text, stands before every front part of it. What follows a call
without its `)` is empty, and the `)` of any other call hides what follows it. -/
theorem Stands.front {f : Forest} {nested : Bool} {s t : Text} (h : f.Stands nested (s ++ t)) :
    f.Stands nested s := by
  induction f generalizing nested s with
  | nil => trivial
  | leaf part rest ih =>
    obtain ⟨hpart, hrest⟩ := h
    refine ⟨hpart.imp_left fun hs => ?_, ih hrest⟩
    rw [← List.append_assoc] at hs
    exact hs.front
  | call name inside closed rest ihInside ih =>
    obtain ⟨⟨hname, ha⟩, hinside, hrest, hclosed⟩ := h
    cases closed with
    | true =>
      refine ⟨⟨hname, fun hn => ?_⟩, ?_, ih hrest, by simp⟩
      · have hstarts := ha hn
        rw [if_pos rfl, List.singleton_append, Token.startsAddress_append_closing] at hstarts ⊢
        exact hstarts
      · refine ihInside ?_
        simpa using hinside
    | false =>
      obtain ⟨rfl, hnil⟩ := hclosed rfl
      obtain ⟨rfl, rfl⟩ := List.append_eq_nil_iff.1 hnil
      exact ⟨⟨hname, ha⟩, hinside, trivial, fun _ => ⟨rfl, rfl⟩⟩

/-- A forest that stands inside a call stands by itself. -/
theorem Stands.unnested {f : Forest} {after : Text} (h : f.Stands true after) :
    f.Stands false after := by
  induction f with
  | nil => trivial
  | leaf part rest ih =>
    obtain ⟨hpart | ⟨hn, -⟩, hrest⟩ := h
    · exact ⟨.inl hpart, ih hrest⟩
    · cases hn
  | call name inside closed rest _ ih =>
    obtain ⟨hname, hinside, hrest, hclosed⟩ := h
    exact ⟨hname, hinside, ih hrest, hclosed⟩

/-- The nodes inside a call stand by themselves. -/
theorem Stands.alone {inside rest : Forest} {name after : Text} {closed nested : Bool}
    (h : (Forest.call name inside closed rest).Stands nested after) :
    inside.Stands false [] := by
  obtain ⟨-, hinside, -, hclosed⟩ := h
  cases closed with
  | true => exact (Stands.front (s := []) hinside).unnested
  | false =>
    obtain ⟨rfl, rfl⟩ := hclosed rfl
    exact Stands.unnested hinside

end Forest

end CallLint
