import CallLint.Forest.Layout

/-!
# Tallies

The counts and sums over all entries of a layout.
-/

namespace CallLint

/-- The kinds of nodes. -/
inductive NodeKind where
  | call
  | word
  | quoted
  | space
  | divider
  | comment
  deriving DecidableEq, Repr

/-- The kind of a node; an address without quotes is a call. -/
def Node.kind : Node → NodeKind
  | .leaf (.space _) => .space
  | .leaf (.word _) => .word
  | .leaf (.quoted ..) => .quoted
  | .leaf (.comment ..) => .comment
  | .leaf (.divider _) => .divider
  | .leaf (.address ..) => .call
  | .call .. => .call

namespace Layout

/-- The number of entries of a kind. -/
def countKind (l : Layout) (kind : NodeKind) : Nat :=
  l.entries.foldl (fun n e => if e.node.kind = kind then n + 1 else n) 0

/-- The number of entries whose end is missing. -/
def countUnclosed (l : Layout) : Nat :=
  l.entries.foldl (fun n e => if e.node.closed then n else n + 1) 0

/-- The number of bytes in a range of every entry, all in all. -/
def sumLength (l : Layout) (range : Entry → Span) : Nat :=
  l.entries.foldl (fun n e => n + (range e).length) 0

end Layout

end CallLint
