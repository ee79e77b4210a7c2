import CallLint.Decimal.Binary

/-!
# Shortest decimals

The shortest decimal number that rounds to a given floating point number, and of those the nearest
to it. Numbers of one digit are tried first, then numbers of two, and so on; seventeen digits always
suffice.
-/

namespace CallLint.Decimal

/-- The decimal number `digits * 10 ^ exponent`. -/
structure Short where
  digits : Nat
  exponent : Int
  deriving DecidableEq, Repr

/-- The numbers between which everything rounds to the given positive number, as quotients. -/
def bounds (b : Binary) : (Nat × Nat) × (Nat × Nat) :=
  let low :=
    if b.factor = 1 <<< (Binary.precision - 1) && Binary.minExponent < b.exponent then
      Binary.shifted (4 * b.factor - 1) 1 (b.exponent - 2)
    else Binary.shifted (2 * b.factor - 1) 1 (b.exponent - 1)
  (low, Binary.shifted (2 * b.factor + 1) 1 (b.exponent - 1))

/-- The quotient of `digits * 10 ^ exponent`. -/
def Short.ratio (s : Short) : Nat × Nat :=
  if 0 ≤ s.exponent then (s.digits * Nat.pow 10 s.exponent.toNat, 1)
  else (s.digits, Nat.pow 10 (-s.exponent).toNat)

/-- Whether a decimal number rounds to the given number. The bounds themselves do if its factor is
even. -/
def Short.roundsTo (s : Short) (b : Binary) : Bool :=
  let (n, d) := s.ratio
  let (low, high) := bounds b
  if b.factor % 2 = 0 then low.1 * d ≤ n * low.2 && n * high.2 ≤ high.1 * d
  else low.1 * d < n * low.2 && n * high.2 < high.1 * d

/-- The distance between a decimal number and a given number, in parts of the product of their
denominators. -/
def Short.distance (s : Short) (b : Binary) : Nat :=
  let (n, d) := s.ratio
  let (m, e) := b.ratio
  (n * e - m * d) + (m * d - n * e)

/-- The largest `k` with `10 ^ k * den ≤ num`, for positive numbers. -/
def logTen (num den : Nat) : Int :=
  let guess : Int := ((Binary.logRatio num den) * 30103) / 100000
  let atLeast (k : Int) : Bool :=
    if 0 ≤ k then den * Nat.pow 10 k.toNat ≤ num else den ≤ num * Nat.pow 10 (-k).toNat
  if atLeast (guess + 1) then guess + 1 else if atLeast guess then guess else guess - 1

/-- The decimal number on the grid of multiples of `10 ^ exponent` that rounds to the given number
and is nearest to it; of two equally near the one with even digits. -/
def onGrid? (b : Binary) (exponent : Int) : Option Short :=
  let (num, den) := b.ratio
  let floor :=
    if 0 ≤ exponent then num / (den * Nat.pow 10 exponent.toNat)
    else num * Nat.pow 10 (-exponent).toNat / den
  let below : Short := ⟨floor, exponent⟩
  let above : Short := ⟨floor + 1, exponent⟩
  match below.roundsTo b, above.roundsTo b with
  | true, true =>
    if below.distance b < above.distance b then some below
    else if above.distance b < below.distance b then some above
    else if floor % 2 = 0 then some below else some above
  | true, false => some below
  | false, true => some above
  | false, false => none

/-- The shortest decimal number for a positive number whose first digit stands for `10 ^ leading`,
with at least `tried + 1` digits; so many more numbers of digits may be tried. -/
def shortestFrom (b : Binary) (leading : Int) : Nat → Nat → Short
  | 0, _ => ⟨b.ratio.1, 0⟩
  | fuel + 1, tried =>
    match onGrid? b (leading - tried) with
    | some s => s
    | none => shortestFrom b leading fuel (tried + 1)

/-- The shortest decimal number for a positive floating point number. -/
def shortest (b : Binary) : Short := shortestFrom b (logTen b.ratio.1 b.ratio.2) 17 0

end CallLint.Decimal
