import ApiResolution.Number.Binary64

/-!
The shortest decimal that reads back as a given binary64 number, and its text. Among the decimals
with the fewest digits the nearest one is taken, an exact tie going to the even digit.
-/

namespace ApiResolution

/-- A positive decimal `digits · 10 ^ exponent`. -/
structure Decimal where
  digits : Nat
  exponent : Int
deriving DecidableEq, Repr

namespace Decimal

/-- Drops trailing zeros of the digits. -/
def strip : Nat → Decimal → Decimal
  | 0, d => d
  | fuel + 1, d =>
    if d.digits ≠ 0 ∧ d.digits % 10 = 0 then strip fuel ⟨d.digits / 10, d.exponent + 1⟩ else d

/-- Both sides of a comparison of `digits · 10 ^ exponent` with `bound · 2 ^ scale`, cleared of
negative powers. -/
def sides (d : Decimal) (bound : Nat) (scale : Int) : Nat × Nat :=
  (d.digits * Nat.pow 10 d.exponent.toNat * Nat.pow 2 (-scale).toNat,
    bound * Nat.pow 2 scale.toNat * Nat.pow 10 (-d.exponent).toNat)

end Decimal

namespace Binary64

/-- The numbers that round to `x` lie between these bounds, in units of a quarter of the last
place. Below a power of two the lower neighbour is nearer. -/
def roundingBounds (x : Binary64) : Nat × Nat :=
  let low := if x.mantissa = Nat.pow 2 52 ∧ minExponent < x.exponent then 4 * x.mantissa - 1
    else 4 * x.mantissa - 2
  (low, 4 * x.mantissa + 2)

/-- Whether a decimal rounds to `x`; the bounds themselves do so when the mantissa is even. -/
def accepts (x : Binary64) (d : Decimal) : Bool :=
  let (low, high) := x.roundingBounds
  let (dl, bl) := d.sides low (x.exponent - 2)
  let (dh, bh) := d.sides high (x.exponent - 2)
  if x.mantissa % 2 = 0 then bl ≤ dl && dh ≤ bh else bl < dl && dh < bh

/-- The exponent of the leading decimal digit of a positive number. -/
def leadingExponent (x : Binary64) : Int :=
  let (n, d) := x.magnitude
  if d ≤ n then (Nat.toDigits 10 (n / d)).length - 1
  else -((Nat.toDigits 10 (d / n)).length : Int)

/-- The two neighbours of `x` among the multiples of `10 ^ exponent`. -/
def neighbours (x : Binary64) (exponent : Int) : Decimal × Decimal :=
  let (n, d) := x.magnitude
  let low := n * Nat.pow 10 (-exponent).toNat / (d * Nat.pow 10 exponent.toNat)
  (⟨low, exponent⟩, ⟨low + 1, exponent⟩)

/-- Whether the lower neighbour is the better of two: the nearer one, or the even one of a tie. -/
def prefersLower (x : Binary64) (low : Decimal) : Bool :=
  let (twice, value) := Decimal.sides ⟨2 * low.digits + 1, low.exponent⟩ (2 * x.mantissa) x.exponent
  value < twice || (value == twice && low.digits % 2 == 0)

/-- Tries ever finer grids until a neighbour of `x` rounds to `x`. -/
def shortestFrom (x : Binary64) (exponent : Int) : Nat → Decimal
  | 0 => (x.neighbours exponent).1
  | tries + 1 =>
    let (low, high) := x.neighbours exponent
    match x.accepts low, x.accepts high with
    | true, true => if x.prefersLower low then low else high
    | true, false => low
    | false, true => high
    | false, false => shortestFrom x (exponent - 1) tries

/-- The shortest decimal that rounds to a positive number; seventeen digits always suffice. -/
def shortest (x : Binary64) : Decimal :=
  let d := shortestFrom x x.leadingExponent 17
  Decimal.strip 20 d

end Binary64

/-- How the text of a decimal is laid out: plain notation is used for a decimal point position in
`(plainFrom, plainTo]`, and an exponent may carry a plus sign. -/
structure DecimalLayout where
  plainFrom : Int
  plainTo : Int
  exponentPlus : Bool

namespace DecimalLayout

/-- The text of an exponent. -/
def exponentText (layout : DecimalLayout) (e : Int) : String :=
  if e < 0 then "e-" ++ toString e.natAbs
  else (if layout.exponentPlus then "e+" else "e") ++ toString e.natAbs

/-- The text of a decimal; plain notation has at least one digit after the point. -/
def text (layout : DecimalLayout) (d : Decimal) : String :=
  let ds := Nat.toDigits 10 d.digits
  let point : Int := ds.length + d.exponent
  if layout.plainFrom < point ∧ point ≤ layout.plainTo then
    if 0 ≤ d.exponent then
      String.ofList (ds ++ List.replicate d.exponent.toNat '0') ++ ".0"
    else if 0 < point then
      String.ofList (ds.take point.toNat ++ '.' :: ds.drop point.toNat)
    else
      String.ofList ('0' :: '.' :: List.replicate (-point).toNat '0' ++ ds)
  else
    let tail := ds.drop 1
    let head := String.ofList (ds.take 1)
    let body := if tail.isEmpty then head else head ++ "." ++ String.ofList tail
    body ++ layout.exponentText (point - 1)

/-- The text of a binary64 number: its shortest decimal, with `0.0` and `-0.0` for the zeros. -/
def doubleText (layout : DecimalLayout) (x : Binary64) : String :=
  let body := if x.isZero then "0.0" else layout.text x.shortest
  if x.negative then "-" ++ body else body

end DecimalLayout
end ApiResolution
