/-!
# Binary floating point

Floating point numbers of 64 bits, kept exactly: a whole number below 2 ^ 53 times a power of two
that is not below 2 ^ -1074. Every operation works on the exact result, a quotient of two whole
numbers, and rounds it once, to the nearest such number; of two that are equally near it takes the
one with the even factor.
-/

namespace CallLint.Decimal

/-- The number `factor * 2 ^ exponent`. -/
structure Binary where
  factor : Nat
  exponent : Int
  deriving DecidableEq, Repr

namespace Binary

/-- The number of bits of the factor. -/
def precision : Nat := 53

/-- The smallest exponent. -/
def minExponent : Int := -1074

/-- The largest exponent. -/
def maxExponent : Int := 971

/-- Zero. -/
def zero : Binary := ⟨0, minExponent⟩

/-- The quotient of two whole numbers times a power of two, as a quotient. -/
def shifted (num den : Nat) (exponent : Int) : Nat × Nat :=
  if 0 ≤ exponent then (num <<< exponent.toNat, den) else (num, den <<< (-exponent).toNat)

/-- The number as a quotient of whole numbers. -/
def ratio (b : Binary) : Nat × Nat := shifted b.factor 1 b.exponent

/-- The whole number nearest to a quotient; of two equally near the even one. -/
def nearest (num den : Nat) : Nat :=
  let floor := num / den
  let rest := 2 * (num % den)
  if rest < den then floor
  else if den < rest then floor + 1
  else floor + floor % 2

/-- The largest `k` with `2 ^ k * den ≤ num`, for positive numbers. -/
def logRatio (num den : Nat) : Int :=
  let guess : Int := num.log2 - den.log2
  let (n, d) := shifted num den (-guess)
  if d ≤ n then guess else guess - 1

/-- The nearest floating point number to a quotient, or nothing if it is too large. -/
def round? (num den : Nat) : Option Binary :=
  if num = 0 then some zero
  else
    let exponent := max (logRatio num den - (precision - 1)) minExponent
    let (n, d) := shifted num den (-exponent)
    let factor := nearest n d
    let rounded : Binary :=
      if factor < 1 <<< precision then ⟨factor, exponent⟩ else ⟨factor / 2, exponent + 1⟩
    if rounded.exponent ≤ maxExponent then some rounded else none

/-- The product of two numbers. -/
def mul? (a b : Binary) : Option Binary :=
  round? (a.ratio.1 * b.ratio.1) (a.ratio.2 * b.ratio.2)

/-- The quotient of two numbers, the second one not zero. -/
def div? (a b : Binary) : Option Binary :=
  round? (a.ratio.1 * b.ratio.2) (a.ratio.2 * b.ratio.1)

end Binary

end CallLint.Decimal
