import CallLint.Forest

/-!
# Layout

Every node of a value has a number and a place. Numbers follow the order in which nodes end: a call
comes after all nodes inside it. The word inside an address without quotes, trimmed of white space,
has an entry of its own, unless it is empty. Places are ranges of bytes in the text of the forest.

The entries alone tell how the calls follow one another: `Layout.walk` finds the numbers of the
calls, in the order in which they begin, with a stack of numbers still to be visited.
-/

namespace CallLint

open Text

/-- A range of bytes: from `start` up to, but not including, `stop`. -/
structure Span where
  start : Nat
  stop : Nat
  deriving DecidableEq, Repr

/-- The number of bytes in the range. -/
def Span.length (s : Span) : Nat := s.stop - s.start

/-- A node with its place. -/
structure Entry where
  /-- The node itself. -/
  node : Node
  /-- Where its value stands. -/
  value : Span
  /-- Where the node stands. -/
  source : Span
  /-- For a call, where the text between its parentheses stands. -/
  inner : Span
  /-- For a call, the numbers of the nodes inside it. -/
  children : List Nat
  deriving DecidableEq, Repr

/-- The entry of a leaf that is no call. -/
def Entry.ofLeaf (part : Leaf) (value source : Span) : Entry :=
  ⟨.leaf part, value, source, ⟨0, 0⟩, []⟩

/-- The entries of a value, by number, with the numbers of the top level. -/
structure Layout where
  entries : Array Entry
  roots : List Nat
  /-- The number of bytes of the value. -/
  length : Nat
  deriving Repr

/-- The entries placed so far, the last one first, their number, and the byte at which the next
node begins. -/
structure Draft where
  entries : List Entry
  count : Nat
  position : Nat

namespace Draft

/-- Nothing placed yet. -/
def empty : Draft := ⟨[], 0, 0⟩

/-- The number of the entry placed last. -/
def last (d : Draft) : Nat := d.count - 1

/-- The same entries, with the next node at another place. -/
def moveTo (d : Draft) (position : Nat) : Draft := ⟨d.entries, d.count, position⟩

/-- Places an entry; the next node begins where it ends. -/
def add (d : Draft) (e : Entry) : Draft := ⟨e :: d.entries, d.count + 1, e.source.stop⟩

/-- Places an address: the word inside it, then the call itself. -/
def addAddress (d : Draft) (name body : Text) (closed : Bool) : Draft :=
  let innerStart := d.position + byteLength name + 1
  let inner : Span := ⟨innerStart, innerStart + byteLength body⟩
  let word := trim body
  let wordStart := innerStart + (byteLength body - byteLength (trimStart body))
  let place : Span := ⟨wordStart, wordStart + byteLength word⟩
  let inside : Draft :=
    if word = [] then d else d.add (.ofLeaf (.word word) place place)
  inside.add
    ⟨.leaf (.address name body closed), ⟨d.position, d.position + byteLength name⟩,
      ⟨d.position, inner.stop + if closed then 1 else 0⟩, inner,
      if word = [] then [] else [inside.last]⟩

/-- Places a leaf. -/
def addLeaf (d : Draft) (part : Leaf) : Draft :=
  let source : Span := ⟨d.position, d.position + byteLength part.text⟩
  match part with
  | .quoted _ body _ =>
    d.add (.ofLeaf part ⟨d.position + 1, d.position + 1 + byteLength body⟩ source)
  | .comment body _ =>
    d.add (.ofLeaf part ⟨d.position + 2, d.position + 2 + byteLength body⟩ source)
  | .address name body closed => d.addAddress name body closed
  | _ => d.add (.ofLeaf part source source)

/-- Places the nodes of a forest, and gives the numbers of its top level. -/
def addForest (d : Draft) : Forest → List Nat × Draft
  | .nil => ([], d)
  | .leaf part rest =>
    let placed := d.addLeaf part
    let others := placed.addForest rest
    (placed.last :: others.1, others.2)
  | .call name inside closed rest =>
    let innerStart := d.position + byteLength name + 1
    let children := (d.moveTo innerStart).addForest inside
    let innerStop := children.2.position
    let placed := children.2.add
      ⟨.call name inside closed, ⟨d.position, d.position + byteLength name⟩,
        ⟨d.position, innerStop + if closed then 1 else 0⟩, ⟨innerStart, innerStop⟩, children.1⟩
    let others := placed.addForest rest
    (placed.last :: others.1, others.2)

end Draft

namespace Forest

/-- The layout of a forest whose text begins at byte 0. -/
def layout (f : Forest) : Layout :=
  let placed := Draft.empty.addForest f
  ⟨placed.2.entries.reverse.toArray, placed.1, placed.2.position⟩

end Forest

namespace Layout

/-- Visits the given numbers in order, each call before the nodes inside it, and collects the
numbers of the calls. Every visit uses up one step. -/
def visit (entries : Array Entry) : Nat → List Nat → List Nat
  | 0, _ => []
  | _ + 1, [] => []
  | steps + 1, id :: pending =>
    match entries[id]? with
    | none => visit entries steps pending
    | some e =>
      if e.node.isCall then id :: visit entries steps (e.children ++ pending)
      else visit entries steps pending

/-- The numbers of the calls, in the order in which they begin. There are as many visits as
entries. -/
def walk (l : Layout) : List Nat := visit l.entries l.entries.size l.roots

/-- The entries of the calls, in the order in which they begin. -/
def calls (l : Layout) : List Entry := l.walk.filterMap (l.entries[·]?)

end Layout

end CallLint
