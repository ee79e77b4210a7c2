import CallLint.Decimal.Shortest
import CallLint.Text

/-!
# Numbers in JSON

A number without fraction and exponent is whole if it fits into 64 bits, with or without a sign.
Every other number is a floating point number. Its digits are taken as long as they fit into an
unsigned number of 64 bits; this number is then rounded, and multiplied with or divided by a power
of ten that has been rounded before.
-/

namespace CallLint.Json

open Decimal

/-- A number as it is read. -/
inductive Number where
  | whole (n : Int)
  | floating (negative : Bool) (value : Binary)
  deriving DecidableEq, Repr

/-- The parts of the text of a number. -/
structure NumberText where
  negative : Bool
  /-- The digits before the point. -/
  whole : Text
  /-- The digits after the point, if there is one. -/
  fraction : Option Text
  /-- The exponent, if there is one. -/
  exponent : Option Int
  deriving DecidableEq, Repr

/-- Whether a number fits into 64 bits. -/
def fits (n : Nat) : Bool := n < 0x10000000000000000

/-- Takes digits onto the number `n` as long as the number fits: the number, and how many digits
were taken and left over. -/
def takeDigits (n taken : Nat) : Text → Nat × Nat × Nat
  | [] => (n, taken, 0)
  | d :: ds =>
    let more := n * 10 + Text.hexValue d
    if fits more then takeDigits more (taken + 1) ds else (n, taken, ds.length + 1)

/-- A power of ten as a floating point number. -/
def powerOfTen (k : Nat) : Binary := (Binary.round? (Nat.pow 10 k) 1).getD .zero

/-- The largest power of ten that is used at once. -/
def largestPower : Nat := 308

/-- Divides by ten as often as told, by the largest power of ten at a time. -/
def divideByTens : Nat → Binary → Nat → Option Binary
  | 0, b, _ => some b
  | steps + 1, b, k =>
    if k ≤ largestPower then b.div? (powerOfTen k)
    else if b.factor = 0 then some b
    else (b.div? (powerOfTen largestPower)).bind fun b => divideByTens steps b (k - largestPower)

/-- The number `n * 10 ^ exponent`, or nothing if it is out of range. -/
def scale? (n : Nat) (exponent : Int) : Option Binary := do
  let b ← Binary.round? n 1
  if 0 ≤ exponent then
    if exponent.toNat ≤ largestPower then b.mul? (powerOfTen exponent.toNat)
    else if b.factor = 0 then some b
    else none
  else
    let k := (-exponent).toNat
    divideByTens (k / largestPower + 1) b k

/-- The number that a text stands for, or nothing if it is out of range. -/
def NumberText.value? (t : NumberText) : Option Number :=
  let (n, _, left) := takeDigits 0 0 t.whole
  if t.fraction.isNone && t.exponent.isNone && left = 0 then
    if !t.negative then some (.whole n)
    else if 0 < n && n ≤ 0x8000000000000000 then some (.whole (-(n : Int)))
    else (scale? n 0).map (.floating true)
  else
    let (n, taken, _) := takeDigits n 0 (t.fraction.getD [])
    (scale? n ((left : Int) - taken + t.exponent.getD 0)).map (.floating t.negative)

/-- The text of a positive decimal number: with a point among its digits if its first digit stands
for a power of ten from -5 to 15, and else with an exponent. -/
def shortText (s : Short) : String :=
  let digits := (toString s.digits).toList
  let leading : Int := s.exponent + digits.length - 1
  if leading < -5 || 16 ≤ leading then
    let sign := if leading < 0 then "-" else "+"
    let mantissa := match digits with
      | [d] => [d]
      | d :: ds => d :: '.' :: ds
      | [] => []
    String.ofList mantissa ++ "e" ++ sign ++ toString leading.natAbs
  else if leading < 0 then
    "0." ++ String.ofList (List.replicate (leading.natAbs - 1) '0' ++ digits)
  else
    let before := leading.toNat + 1
    let padded := digits ++ List.replicate (before - digits.length) '0'
    let after := padded.drop before
    String.ofList (padded.take before) ++ "." ++
      String.ofList (if after.isEmpty then ['0'] else after)

/-- The decimal number without needless zeros at the end of its digits. -/
def trimZeros : Nat → Short → Short
  | 0, s => s
  | steps + 1, s =>
    if s.digits ≠ 0 && s.digits % 10 = 0 then trimZeros steps ⟨s.digits / 10, s.exponent + 1⟩
    else s

/-- The text of a floating point number. -/
def floatText (negative : Bool) (b : Binary) : String :=
  (if negative then "-" else "") ++
    (if b.factor = 0 then "0.0" else shortText (trimZeros 20 (shortest b)))

end CallLint.Json
