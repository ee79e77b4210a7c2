import CallLint.Leaf

/-!
# Forests

A style sheet value is a forest: a sequence of leaves and calls, where a call holds a forest of its
own. A forest is either empty or a first node with the forest of the nodes after it, so that one
induction reaches every node at every depth.

* `ofNodes_nodes`: a forest is put together from its top-level nodes.
* `textBefore_eq`: writing a forest in front of a text is writing it by itself.
* `text_ofNodes`: the text of a forest is the text of its nodes, one after the other.
* `callsBefore_eq`: the calls of a forest come before those of what follows it.
-/

namespace CallLint

open Text

/-- The nodes of a value, in the order of the text. -/
inductive Forest where
  /-- No nodes. -/
  | nil
  /-- A leaf and the nodes after it. -/
  | leaf (part : Leaf) (rest : Forest)
  /-- A call with its name (empty for bare parentheses), the nodes between its parentheses, whether
  its `)` is there, and the nodes after it. -/
  | call (name : Text) (inside : Forest) (closed : Bool) (rest : Forest)
  deriving DecidableEq, Repr

/-- One node of a value. -/
inductive Node where
  /-- A part without parts of its own. -/
  | leaf (part : Leaf)
  /-- A call with its name, the nodes between its parentheses, and whether its `)` is there. -/
  | call (name : Text) (inside : Forest) (closed : Bool)
  deriving DecidableEq, Repr

namespace Forest

/-- The forest with one more node at its front. -/
def cons : Node → Forest → Forest
  | .leaf part, rest => .leaf part rest
  | .call name inside closed, rest => .call name inside closed rest

/-- The nodes of the top level. -/
def nodes : Forest → List Node
  | .nil => []
  | .leaf part rest => .leaf part :: rest.nodes
  | .call name inside closed rest => .call name inside closed :: rest.nodes

/-- The forest with the given nodes at its top level. -/
def ofNodes (ns : List Node) : Forest := ns.foldr cons .nil

@[simp] theorem ofNodes_nodes (f : Forest) : ofNodes f.nodes = f := by
  induction f with
  | nil => rfl
  | leaf part rest ih =>
    rw [nodes, ofNodes, List.foldr_cons]
    exact congrArg (Forest.leaf part) ih
  | call name inside closed rest _ ih =>
    rw [nodes, ofNodes, List.foldr_cons]
    exact congrArg (Forest.call name inside closed) ih

/-- The text of the forest, followed by `after`. -/
def textBefore : Forest → Text → Text
  | .nil, after => after
  | .leaf part rest, after => part.text ++ rest.textBefore after
  | .call name inside closed rest, after =>
    name ++ '(' :: inside.textBefore
      (if closed then ')' :: rest.textBefore after else rest.textBefore after)

/-- The text of the forest. -/
def text (f : Forest) : Text := f.textBefore []

theorem textBefore_eq (f : Forest) (after : Text) : f.textBefore after = f.text ++ after := by
  unfold text
  induction f generalizing after with
  | nil => rfl
  | leaf part rest ih => rw [textBefore, textBefore, ih after, List.append_assoc]
  | call name inside closed rest ihInside ih =>
    rw [textBefore, textBefore, ihInside, ihInside (if closed then _ else _), ih after]
    split <;> simp

@[simp] theorem text_nil : text .nil = [] := rfl

@[simp] theorem text_leaf (part : Leaf) (rest : Forest) :
    text (.leaf part rest) = part.text ++ rest.text := rfl

@[simp] theorem text_call (name : Text) (inside : Forest) (closed : Bool) (rest : Forest) :
    text (.call name inside closed rest) =
      name ++ '(' :: inside.text ++ (if closed then [')'] else []) ++ rest.text := by
  rw [text, textBefore, textBefore_eq inside, ← text]
  split <;> simp

end Forest

namespace Node

/-- The text of the node. -/
def text (n : Node) : Text := (Forest.cons n .nil).text

@[simp] theorem text_leaf (part : Leaf) : text (.leaf part) = part.text := by
  simp [text, Forest.cons]

@[simp] theorem text_call (name : Text) (inside : Forest) (closed : Bool) :
    text (.call name inside closed) =
      name ++ '(' :: inside.text ++ (if closed then [')'] else []) := by
  simp [text, Forest.cons]

/-- Whether the node is a call; an address without quotes counts as one. -/
def isCall : Node → Bool
  | .leaf (.address ..) => true
  | .leaf _ => false
  | .call .. => true

/-- The name of a call; empty for every other node. -/
def name : Node → Text
  | .leaf (.address name _ _) => name
  | .leaf _ => []
  | .call name _ _ => name

/-- The text between the parentheses of a call; empty for every other node. -/
def inner : Node → Text
  | .leaf (.address _ body _) => body
  | .leaf _ => []
  | .call _ inside _ => inside.text

/-- What the node is about: the name of a call, a string or comment without its marks, and the
whole text of any other node. -/
def value : Node → Text
  | .leaf (.quoted _ body _) => body
  | .leaf (.comment body _) => body
  | .leaf (.address name _ _) => name
  | .leaf part => part.text
  | .call name _ _ => name

/-- Whether the end of the node is there. -/
def closed : Node → Bool
  | .leaf part => part.closed
  | .call _ _ closed => closed

end Node

namespace Forest

theorem text_cons (n : Node) (f : Forest) : (cons n f).text = n.text ++ f.text := by
  cases n <;> simp [cons]

/-- The text of a forest is the text of its nodes, one after the other. -/
theorem text_ofNodes (ns : List Node) : (ofNodes ns).text = (ns.map Node.text).flatten := by
  induction ns with
  | nil => rfl
  | cons n ns ih =>
    rw [ofNodes, List.foldr_cons, text_cons, ← ofNodes, ih, List.map_cons, List.flatten_cons]

/-- All calls of the forest, each before the calls inside it, followed by `after`. -/
def callsBefore : Forest → List Node → List Node
  | .nil, after => after
  | .leaf part rest, after =>
    if (Node.leaf part).isCall then .leaf part :: rest.callsBefore after
    else rest.callsBefore after
  | .call name inside closed rest, after =>
    .call name inside closed :: inside.callsBefore (rest.callsBefore after)

/-- All calls of the forest at every depth, in the order in which they begin. -/
def calls (f : Forest) : List Node := f.callsBefore []

theorem callsBefore_eq (f : Forest) (after : List Node) :
    f.callsBefore after = f.calls ++ after := by
  unfold calls
  induction f generalizing after with
  | nil => rfl
  | leaf part rest ih =>
    rw [callsBefore, callsBefore, ih after]
    split <;> rfl
  | call name inside closed rest ihInside ih =>
    rw [callsBefore, callsBefore, ihInside, ihInside (rest.callsBefore []), ih after]
    simp

@[simp] theorem calls_leaf (part : Leaf) (rest : Forest) :
    calls (.leaf part rest) =
      if (Node.leaf part).isCall then .leaf part :: rest.calls else rest.calls := rfl

@[simp] theorem calls_call (name : Text) (inside : Forest) (closed : Bool) (rest : Forest) :
    calls (.call name inside closed rest) =
      .call name inside closed :: (inside.calls ++ rest.calls) := by
  rw [calls, callsBefore, callsBefore_eq inside, ← calls]

end Forest

end CallLint
