import ApiResolution.Number.Binary64

/-!
Doubles of decimal literals by scaling. The leading digits that fit a 64-bit word are rounded to a
double, which is then multiplied or divided by a rounded power of ten. Each step rounds once, so the
result can lie a few units of the last place beside the double nearest to the literal; it is the
nearest one when at most fifteen digits meet a power of at most twenty-two.
-/

namespace ApiResolution
namespace Scaled

/-- The number written by decimal digits. -/
def value (digits : List Nat) : Nat := digits.foldl (fun n d => 10 * n + d) 0

/-- Appends digits to a number as long as it fits a word; gives the digits left over. -/
def append (n : Nat) : List Nat → Nat × List Nat
  | [] => (n, [])
  | d :: ds => if 10 * n + d < Nat.pow 2 64 then append (10 * n + d) ds else (n, d :: ds)

/-- The leading digits of a literal as a word, and the power of ten that it is to be scaled by. A
digit before the point that is left over raises the power, a digit taken after it lowers it. -/
def significand (whole fraction : List Nat) : Nat × Int :=
  let (n, left) := append 0 whole
  let (n, ignored) := append n fraction
  (n, (left.length : Int) + ignored.length - fraction.length)

/-- The largest power of ten in the range of doubles. -/
def maxPower : Nat := 308

/-- The double nearest to a power of ten, up to the largest one. -/
def powerOfTen? (n : Nat) : Option Binary64 :=
  if n ≤ maxPower then Binary64.ofDecimal false 1 n else none

/-- Multiplies a double by a power of ten; one below the range of doubles is divided out in steps.
Gives `none` beyond the largest double. -/
def scale? : Nat → Binary64 → Int → Option Binary64
  | 0, x, _ => some x
  | fuel + 1, x, power =>
    match powerOfTen? power.natAbs with
    | some p => if 0 ≤ power then x.mul? p else x.div? p
    | none =>
      if x.isZero then some x
      else if 0 ≤ power then none
      else do
        let step ← powerOfTen? maxPower
        let y ← x.div? step
        scale? fuel y (power + maxPower)

/-- The double of a literal with the given sign, digits before and after the point and power of
ten. -/
def ofDigits (negative : Bool) (whole fraction : List Nat) (power : Int) : Option Binary64 := do
  let (n, shift) := significand whole fraction
  let x ← Binary64.ofDecimal negative n 0
  scale? (power.natAbs + shift.natAbs + 1) x (shift + power)

end Scaled
end ApiResolution
