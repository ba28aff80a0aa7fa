/-!
Finite binary64 numbers as exact values `± mantissa · 2 ^ exponent`. `ofDecimal` rounds a decimal
to the nearest one, an exact half going to the even mantissa; `mul?` and `div?` round the exact
product and quotient in the same way; `truncate` drops the fraction.
-/

namespace ApiResolution

/-- The finite number `± mantissa · 2 ^ exponent`. Numbers made by `ofDecimal` have a mantissa
below `2 ^ 53` and an exponent of at least `-1074`, and one of the two is as small as possible. -/
structure Binary64 where
  negative : Bool
  mantissa : Nat
  exponent : Int
deriving DecidableEq, Repr

namespace Binary64

/-- The smallest exponent. -/
def minExponent : Int := -1074

/-- The largest exponent. -/
def maxExponent : Int := 971

/-- Zero with a sign. -/
def zero (negative : Bool) : Binary64 := ⟨negative, 0, minExponent⟩

/-- Whether the number is zero, of either sign. -/
def isZero (x : Binary64) : Bool := x.mantissa == 0

/-- The quotient rounded to the nearest integer, an exact half to the even one. -/
def roundHalfEven (num den : Nat) : Nat :=
  let q := num / den
  let r := num % den
  if 2 * r < den then q
  else if 2 * r = den then q + q % 2
  else q + 1

/-- A fraction equal to `num / den / 2 ^ e`. -/
def scale (num den : Nat) (e : Int) : Nat × Nat :=
  if 0 ≤ e then (num, den * Nat.pow 2 e.toNat)
  else (num * Nat.pow 2 (-e).toNat, den)

/-- The binary64 number nearest to `num / den`, or `none` when it lies beyond the largest one. -/
def ofFraction (negative : Bool) (num den : Nat) : Option Binary64 :=
  if num = 0 then some (zero negative)
  else
    let low : Int := (num.log2 : Int) - den.log2 - 53
    let (n, d) := scale num den low
    let e := max minExponent (if n / d < Nat.pow 2 53 then low else low + 1)
    let (n, d) := scale num den e
    let m := roundHalfEven n d
    let (m, e) := if m = Nat.pow 2 53 then (Nat.pow 2 52, e + 1) else (m, e)
    if maxExponent < e then none else some ⟨negative, m, e⟩

/-- The binary64 number nearest to `digits · 10 ^ exponent`. Decimals that are far beyond the
largest or far below the smallest number are recognised by their length alone. -/
def ofDecimal (negative : Bool) (digits : Nat) (exponent : Int) : Option Binary64 :=
  let size : Int := exponent + (Nat.toDigits 10 digits).length
  if digits = 0 ∨ size < -400 then some (zero negative)
  else if 400 < size then none
  else if 0 ≤ exponent then ofFraction negative (digits * Nat.pow 10 exponent.toNat) 1
  else ofFraction negative digits (Nat.pow 10 (-exponent).toNat)

/-- The absolute value as a fraction. -/
def magnitude (x : Binary64) : Nat × Nat :=
  if 0 ≤ x.exponent then (x.mantissa * Nat.pow 2 x.exponent.toNat, 1)
  else (x.mantissa, Nat.pow 2 (-x.exponent).toNat)

/-- The product rounded to the nearest number, or `none` when it lies beyond the largest one. -/
def mul? (x y : Binary64) : Option Binary64 :=
  let (m, b) := x.magnitude
  let (n, d) := y.magnitude
  ofFraction (x.negative != y.negative) (m * n) (b * d)

/-- The quotient rounded to the nearest number, or `none` when it lies beyond the largest one or
when the divisor is zero. -/
def div? (x y : Binary64) : Option Binary64 :=
  let (m, b) := x.magnitude
  let (n, d) := y.magnitude
  if n = 0 then none else ofFraction (x.negative != y.negative) (m * d) (b * n)

/-- The integer next to the number on the side of zero. -/
def truncate (x : Binary64) : Int :=
  let (n, d) := x.magnitude
  if x.negative then -(n / d : Nat) else (n / d : Nat)

/-- Equality of values: the two zeros are equal. -/
def same (x y : Binary64) : Bool :=
  x == y || (x.isZero && y.isZero)

end Binary64
end ApiResolution
