import ApiResolution.Number.Scaled
import ApiResolution.Number.Shortest

/-!
The numbers of documents: 64-bit integers, signed or unsigned, and binary64 numbers. A literal
without fraction and exponent that fits 64 bits is an integer, every other literal is a double.
-/

namespace ApiResolution

/-- A number of a document. -/
inductive Number where
  | integer (n : Int)
  | double (x : Binary64)
deriving DecidableEq, Repr

namespace Number

/-- Whether an integer fits a signed or an unsigned 64-bit word. -/
def fits64 (n : Int) : Bool :=
  -Int.pow 2 63 ≤ n && n < Int.pow 2 64

/-- Doubles are written plainly from `0.00001` up to sixteen digits before the point, and an
exponent carries its sign. -/
def layout : DecimalLayout := ⟨-5, 16, true⟩

/-- The text of a number. -/
def text : Number → String
  | integer n => toString n
  | double x => layout.doubleText x

/-- Equality of numbers: an integer never equals a double, and the two zeros are equal. -/
def same : Number → Number → Bool
  | integer m, integer n => m == n
  | double x, double y => x.same y
  | _, _ => false

/-- The number of a literal with the given sign, digits before and after the point and power of
ten; a literal without point and power is an integer if it fits 64 bits and is no negative zero. -/
def ofLiteral (negative : Bool) (whole : List Nat) (fraction : Option (List Nat))
    (power : Option Int) : Option Number :=
  let digits := Scaled.value whole
  let n : Int := if negative then -digits else digits
  if fraction.isNone && power.isNone && fits64 n && !(negative && digits == 0) then
    some (integer n)
  else
    (Scaled.ofDigits negative whole (fraction.getD []) (power.getD 0)).map double

/-- The text of a number as a bound on integers: the fraction of a double is dropped and the result
is clamped to the signed 64-bit range. -/
def integralText : Number → String
  | integer n => toString n
  | double x => toString (max (-Int.pow 2 63) (min (Int.pow 2 63 - 1) x.truncate))

end Number
end ApiResolution
