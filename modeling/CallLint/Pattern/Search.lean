import CallLint.Pattern.Expr

/-!
# Searching

A set of places in a text is a number whose bits stand for the places. An expression takes a set of
places to the places where a match from one of them may end; a pattern occurs in a text when some
place is reached from all places together.
-/

namespace CallLint.Pattern

/-- What an atom does to a set of places in some text: it keeps the places of a mask, and may take
each to the place after it. -/
structure Move where
  mask : Nat
  steps : Bool

namespace Move

/-- The mask of the places that satisfy `p`, from the given place on. `before` is the character
before it. -/
def maskFrom (p : Option Char → Option Char → Bool) (place : Nat) (before : Option Char) :
    List Char → Nat
  | [] => if p before none then 1 <<< place else 0
  | c :: text =>
    maskFrom p (place + 1) (some c) text + if p before (some c) then 1 <<< place else 0

/-- What an atom does in the given text. -/
def ofAtom (text : List Char) : Atom → Move
  | .one s => ⟨maskFrom (fun _ after => after.any s.contains) 0 none text, true⟩
  | .look l => ⟨maskFrom l.holds 0 none text, false⟩

/-- Takes a set of places to another. -/
def apply (m : Move) (places : Nat) : Nat :=
  let kept := places &&& m.mask
  if m.steps then 2 * kept else kept

end Move

/-- The places after exactly `n` rounds; a round that changes nothing is the last. -/
def rounds (f : Nat → Nat) : Nat → Nat → Nat
  | 0, places => places
  | n + 1, places =>
    let reached := f places
    if reached = places then places else rounds f n reached

/-- The places `found` and those reached from `fresh` in at most `n` rounds. Only places not found
before go into the next round. -/
def spread (f : Nat → Nat) : Nat → Nat → Nat → Nat
  | 0, _, found => found
  | n + 1, fresh, found =>
    let reached := f fresh ||| found
    if reached = found then found else spread f n (reached ^^^ found) reached

/-- The places where a match from one of the given places may end, in a text with at most `size`
places. -/
def Expr.run (size : Nat) : Expr Move → Nat → Nat
  | .empty, places => places
  | .atom m, places => m.apply places
  | .sequence first rest, places => rest.run size (first.run size places)
  | .choice first rest, places => first.run size places ||| rest.run size places
  | .repeated body least most, places =>
    let least' := rounds (body.run size) least places
    spread (body.run size) ((most.map (· - least)).getD size) least' least'
  | .group body, places => body.run size places

/-- The expression without groups, and with a single repetition where an unbounded repetition is
repeated without bounds. Both leave the matches as they are. -/
def Expr.flatten {α : Type} : Expr α → Expr α
  | .repeated body least most =>
    match body.flatten, least, most with
    | .repeated inner low none, least, none =>
      if low ≤ 1 && least ≤ 1 then .repeated inner (low * least) none
      else .repeated (.repeated inner low none) least none
    | body, least, most => .repeated body least most
  | .group body => body.flatten
  | .sequence first rest => .sequence first.flatten rest.flatten
  | .choice first rest => .choice first.flatten rest.flatten
  | .empty => .empty
  | .atom a => .atom a

/-- Whether the expression matches some stretch of the text. -/
def Expr.occursIn (e : Expr Atom) (text : List Char) : Bool :=
  let size := text.length + 1
  (e.flatten.map (Move.ofAtom text)).run size (1 <<< size - 1) ≠ 0

end CallLint.Pattern
