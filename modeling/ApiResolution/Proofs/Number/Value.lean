import ApiResolution.Number
import Mathlib.Algebra.Order.Field.Power
import Mathlib.Algebra.Order.Floor.Ring
import Mathlib.Data.Rat.Floor

/-!
Numbers as exact rationals, and what becomes of them as bounds on integers. Dropping a fraction
rounds toward zero, which is down for a positive number and up for a negative one, and what does not
fit a signed word is clamped. So the integer that stands for a number is the number rounded in a
given direction exactly under `Number.KeptBy` (`integral_eq_round_iff`).
-/

namespace ApiResolution

/-- The directions in which a number is rounded to an integer. -/
inductive Direction where
  | down
  | up

namespace Direction

/-- The next integer in a direction. -/
def round : Direction → ℚ → ℤ
  | down, q => ⌊q⌋
  | up, q => ⌈q⌉

/-- The direction leads from a number to zero, or the number is zero. -/
def TowardZero : Direction → ℚ → Prop
  | down, q => 0 ≤ q
  | up, q => q ≤ 0

end Direction

namespace Binary64

/-- The exact value. -/
def value (x : Binary64) : ℚ :=
  let size : ℚ := x.mantissa * 2 ^ x.exponent
  if x.negative then -size else size

theorem magnitude_div (x : Binary64) :
    (x.magnitude.1 : ℚ) / x.magnitude.2 = x.mantissa * 2 ^ x.exponent := by
  unfold magnitude
  split
  · next h =>
    obtain ⟨n, hn⟩ := Int.eq_ofNat_of_zero_le h
    simp [hn]
  · next h =>
    obtain ⟨n, hn⟩ := Int.eq_ofNat_of_zero_le (show 0 ≤ -x.exponent by omega)
    have hexponent : x.exponent = -(n : ℤ) := by omega
    simp [hexponent, div_eq_mul_inv]

/-- The number of whole units in the absolute value. -/
theorem floor_magnitude (x : Binary64) :
    ⌊(x.mantissa * 2 ^ x.exponent : ℚ)⌋ = (x.magnitude.1 / x.magnitude.2 : ℕ) := by
  rw [← magnitude_div, Rat.floor_natCast_div_natCast, Int.natCast_div]

theorem truncate_eq_round (x : Binary64) {d : Direction} (h : d.TowardZero x.value) :
    x.truncate = d.round x.value := by
  have hsize : (0 : ℚ) ≤ x.mantissa * 2 ^ x.exponent := by positivity
  have hfloor := floor_magnitude x
  unfold truncate value at *
  cases hn : x.negative <;> cases d <;>
    simp only [hn, Direction.TowardZero, Direction.round, if_true, Bool.false_eq_true, if_false]
      at h ⊢
  · exact hfloor.symm
  · have hzero := le_antisymm h hsize
    rw [← hfloor, hzero, Int.floor_zero, Int.ceil_zero]
  · have hzero := le_antisymm (neg_nonneg.mp h) hsize
    rw [← hfloor, hzero, neg_zero, Int.floor_zero, neg_zero]
  · rw [Int.ceil_neg, hfloor]

end Binary64

namespace Number

/-- The exact value. -/
def value : Number → ℚ
  | integer n => n
  | double x => x.value

/-- The integer that stands for a number as a bound on integers. -/
def integral : Number → ℤ
  | integer n => n
  | double x => max (-Int.pow 2 63) (min (Int.pow 2 63 - 1) x.truncate)

theorem integralText_eq (n : Number) : n.integralText = toString n.integral := by
  cases n <;> rfl

/-- Rounding a number in a direction gives the integer that stands for it: the number is an integer
already, or it is a double that is not beyond the signed words, and has no fraction or loses it in
that direction. -/
def KeptBy (d : Direction) : Number → Prop
  | integer _ => True
  | double x =>
    (-Int.pow 2 63 ≤ x.truncate ∧ x.truncate < Int.pow 2 63) ∧
      (d.TowardZero x.value ∨ x.value = x.truncate)

/-- A number is as large as the integer next to it on the other side of zero only if it is that
integer. -/
theorem value_eq_truncate {d : Direction} {x : Binary64} (hd : ¬d.TowardZero x.value)
    (h : (double x).integral = d.round x.value) : x.value = x.truncate := by
  have hzero : (-Int.pow 2 63 : ℤ) ≤ 0 ∧ (0 : ℤ) < Int.pow 2 63 := by decide
  cases d with
  | down =>
    have hneg : x.value < 0 := not_le.mp hd
    have hceil : x.truncate = ⌈x.value⌉ := x.truncate_eq_round (d := .up) hneg.le
    have hsign : ⌈x.value⌉ ≤ 0 := Int.ceil_le.mpr (mod_cast hneg.le)
    have hle : ⌈x.value⌉ ≤ ⌊x.value⌋ := by
      simp only [integral, Direction.round] at h
      omega
    rw [hceil]
    exact le_antisymm (Int.le_ceil _) ((Int.cast_le.mpr hle).trans (Int.floor_le _))
  | up =>
    have hpos : 0 < x.value := not_le.mp hd
    have hfloor : x.truncate = ⌊x.value⌋ := x.truncate_eq_round (d := .down) hpos.le
    have hsign : 0 ≤ ⌊x.value⌋ := Int.floor_nonneg.mpr hpos.le
    have hle : ⌈x.value⌉ ≤ ⌊x.value⌋ := by
      simp only [integral, Direction.round] at h
      omega
    rw [hfloor]
    exact le_antisymm ((Int.le_ceil _).trans (Int.cast_le.mpr hle)) (Int.floor_le _)

/-- The integer that stands for a number is the number rounded in a direction exactly if the number
keeps its integers in that direction. -/
theorem integral_eq_round_iff (d : Direction) (n : Number) :
    n.integral = d.round n.value ↔ n.KeptBy d := by
  cases n with
  | integer n => cases d <;> simp [integral, value, KeptBy, Direction.round]
  | double x =>
    have hexact : x.value = x.truncate → x.truncate = d.round x.value := by
      intro h
      rw [h]
      cases d <;> simp [Direction.round]
    constructor
    · intro h
      have hround : d.TowardZero x.value ∨ x.value = x.truncate :=
        or_iff_not_imp_left.mpr fun hd => value_eq_truncate hd h
      have htruncate := hround.elim x.truncate_eq_round hexact
      have hclamped : max (-Int.pow 2 63) (min (Int.pow 2 63 - 1) x.truncate) = x.truncate :=
        h.trans htruncate.symm
      refine ⟨⟨hclamped ▸ le_max_left _ _, Int.lt_of_le_sub_one ?_⟩, hround⟩
      exact hclamped ▸ max_le (by decide) (min_le_left _ _)
    · rintro ⟨⟨hlow, hhigh⟩, hround⟩
      have htruncate := hround.elim x.truncate_eq_round hexact
      calc (double x).integral = max (-Int.pow 2 63) x.truncate := by
            rw [integral, min_eq_right (Int.le_sub_one_of_lt hhigh)]
        _ = x.truncate := max_eq_right hlow
        _ = d.round (double x).value := htruncate

end Number
end ApiResolution
