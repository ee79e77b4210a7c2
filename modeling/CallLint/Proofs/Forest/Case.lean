import CallLint.Proofs.Forest.Reading
import CallLint.Proofs.Token.Case

/-!
# ASCII case and forests

Reading a value and writing it in lower case can be exchanged: the value in lower case has the same
nodes, with their text in lower case.

* `Stands.lower`: a forest in lower case stands where the forest stands.
* `parse_lowerAscii`: the forest of a value in lower case.
* `calls_lower`: its calls.
-/

namespace CallLint

open Text

/-- The forest with all its text in lower case. -/
def Forest.lower : Forest → Forest
  | .nil => .nil
  | .leaf part rest => .leaf part.lower rest.lower
  | .call name inside closed rest => .call (lowerAscii name) inside.lower closed rest.lower

/-- The node with all its text in lower case. -/
def Node.lower : Node → Node
  | .leaf part => .leaf part.lower
  | .call name inside closed => .call (lowerAscii name) inside.lower closed

namespace Forest

@[simp] theorem text_lower (f : Forest) : f.lower.text = lowerAscii f.text := by
  induction f with
  | nil => rfl
  | leaf part rest ih => simp [lower, ih]
  | call name inside closed rest ihInside ih =>
    cases closed <;> simp [lower, ih, ihInside]

theorem Stands.lower {f : Forest} {nested : Bool} {after : Text} (h : f.Stands nested after) :
    f.lower.Stands nested (lowerAscii after) := by
  induction f generalizing nested after with
  | nil => trivial
  | leaf part rest ih =>
    obtain ⟨hpart, hrest⟩ := h
    refine ⟨?_, ih hrest⟩
    rcases hpart with hpart | ⟨hnested, rfl⟩
    · have hlower := hpart.lower
      rw [lowerAscii_append, ← text_lower] at hlower
      exact .inl hlower
    · exact .inr ⟨hnested, rfl⟩
  | call name inside closed rest ihInside ih =>
    obtain ⟨hname, hinside, hrest, hclosed⟩ := h
    have hend : lowerAscii (if closed then [')'] else []) = if closed then [')'] else [] := by
      cases closed <;> rfl
    have hname' := Token.stands_opening_lower hname
    have hinside' := ihInside hinside
    simp only [lowerAscii_append, hend, ← text_lower] at hname' hinside'
    refine ⟨hname', hinside', ih hrest, fun hc => ?_⟩
    obtain ⟨rfl, rfl⟩ := hclosed hc
    exact ⟨rfl, rfl⟩

/-- The forest of a value in lower case. -/
theorem parse_lowerAscii (t : Text) : parse (lowerAscii t) = (parse t).lower := by
  -- the forest in lower case has this text and stands, and reading gives the one forest that does
  have h := parse_of_stands (stands_parse t).lower
  rwa [text_lower, text_parse] at h

end Forest

namespace Node

@[simp] theorem isCall_lower (n : Node) : n.lower.isCall = n.isCall := by
  rcases n with part | ⟨name, inside, closed⟩
  · cases part <;> rfl
  · rfl

@[simp] theorem closed_lower (n : Node) : n.lower.closed = n.closed := by
  rcases n with part | ⟨name, inside, closed⟩
  · cases part <;> rfl
  · rfl

@[simp] theorem name_lower (n : Node) : n.lower.name = lowerAscii n.name := by
  rcases n with part | ⟨name, inside, closed⟩
  · cases part <;> rfl
  · rfl

@[simp] theorem inner_lower (n : Node) : n.lower.inner = lowerAscii n.inner := by
  rcases n with part | ⟨name, inside, closed⟩
  · cases part <;> rfl
  · exact inside.text_lower

end Node

theorem Forest.calls_lower (f : Forest) : f.lower.calls = f.calls.map Node.lower := by
  induction f with
  | nil => rfl
  | leaf part rest ih =>
    have hcall : (Node.leaf part.lower).isCall = (Node.leaf part).isCall :=
      Node.isCall_lower (.leaf part)
    rw [lower, calls_leaf, calls_leaf, hcall, ih]
    split <;> rfl
  | call name inside closed rest ihInside ih =>
    rw [lower, calls_call, calls_call, ihInside, ih]
    simp [Node.lower]

end CallLint
