import Mathlib
import ApiResolution.Property.OfSchema
import ApiResolution.Proofs.Schema.Bounds

/-!
The integers that the constraints on an integer type admit. A bound is written as an integer, which
admits the integers of the bound only if it is the bound rounded to the side that the limit is on:
up for what a lower bound or a strict upper one admits, down otherwise. So the same integers are
admitted exactly if each bound is kept by its rounding (`Number.KeptBy`), or if there are none
(`admits_validationOf_iff`).
-/

namespace ApiResolution

namespace Side

/-- The direction in which a limit is rounded to an integer that admits the same integers. -/
def rounding : Side → Bool → Direction
  | lower, false => .up
  | lower, true => .down
  | upper, false => .down
  | upper, true => .up

/-- An integer obeys a bound in decimal, if there is one. -/
def AdmitsText (side : Side) (bound : Option String) (strict : Bool) (x : ℤ) : Prop :=
  ∀ t ∈ bound, ∃ n : ℤ, t.toInt? = some n ∧ side.Obeys strict n x

variable {side : Side} {strict : Bool} {bound : Option Number}

theorem obeys_round_iff (side : Side) (strict : Bool) (limit : ℚ) (x : ℤ) :
    side.Obeys strict limit x ↔ side.Obeys strict ((side.rounding strict).round limit) x := by
  cases side <;> cases strict <;> simp only [Obeys, rounding, Direction.round, Int.cast_le,
    Int.cast_lt, Int.ceil_le, Int.floor_lt, Int.le_floor, Int.lt_ceil]

/-- Integer limits admit the same integers only if they are equal. -/
theorem forall_obeys_iff_obeys_iff (side : Side) (strict : Bool) (m n : ℤ) :
    (∀ x : ℤ, side.Obeys strict m x ↔ side.Obeys strict n x) ↔ m = n := by
  constructor
  · intro h
    cases side <;> cases strict <;> simp only [Obeys, Int.cast_le, Int.cast_lt] at h
    · exact eq_of_forall_ge_iff h
    · exact eq_of_forall_gt_iff h
    · exact eq_of_forall_le_iff h
    · exact eq_of_forall_lt_iff h
  · rintro rfl x
    rfl

theorem admitsText_integralText_iff {x : ℤ} :
    side.AdmitsText (bound.map Number.integralText) strict x ↔
      ∀ n ∈ bound, side.Obeys strict n.integral x := by
  cases bound with
  | none => simp [AdmitsText]
  | some n => simp [AdmitsText, Number.integralText_eq, Int.toString_eq_repr, Int.toInt?_repr]

/-- The bound in decimal admits the same integers exactly if the bound is kept by the rounding that
its side asks for. -/
theorem forall_admitsText_iff :
    (∀ x : ℤ, side.Admits bound strict x ↔
        side.AdmitsText (bound.map Number.integralText) strict x) ↔
      ∀ n ∈ bound, n.KeptBy (side.rounding strict) := by
  cases bound with
  | none => simp [AdmitsText, Admits]
  | some n =>
    simp only [admitsText_integralText_iff, Admits, Option.mem_some_iff, forall_eq']
    rw [← Number.integral_eq_round_iff, eq_comm, ← forall_obeys_iff_obeys_iff side strict]
    exact forall_congr' fun x => by rw [obeys_round_iff side strict n.value]

theorem admitsText_mono {text : Option String} {x y : ℤ} (hxy : x ≤ y) :
    (lower.AdmitsText text strict x → lower.AdmitsText text strict y) ∧
      (upper.AdmitsText text strict y → upper.AdmitsText text strict x) := by
  have hcast : (x : ℚ) ≤ y := Int.cast_le.mpr hxy
  refine ⟨fun h t ht => ?_, fun h t ht => ?_⟩
  · obtain ⟨n, hn, hobeys⟩ := h t ht
    exact ⟨n, hn, (obeys_mono hcast).1 hobeys⟩
  · obtain ⟨n, hn, hobeys⟩ := h t ht
    exact ⟨n, hn, (obeys_mono hcast).2 hobeys⟩

end Side

/-- An integer obeys the bounds among some constraints, which are in decimal. -/
def Validation.Admits (v : Validation) (x : ℤ) : Prop :=
  Side.lower.AdmitsText v.minimum v.exclusiveMinimum x ∧
    Side.upper.AdmitsText v.maximum v.exclusiveMaximum x

namespace Property

theorem admits_validationOf (s : Schema) {tag : TypeTag} (h : tag.isIntegral = true) (x : ℤ) :
    (validationOf s tag).Admits x ↔
      Side.lower.AdmitsText (s.minimum.map Number.integralText) s.exclusiveMinimum x ∧
        Side.upper.AdmitsText (s.maximum.map Number.integralText) s.exclusiveMaximum x := by
  have htext : boundText tag.isIntegral = Number.integralText := by
    funext n
    rw [boundText, if_pos h]
  unfold Validation.Admits validationOf
  dsimp only
  rw [htext]
  cases hmin : s.minimum <;> cases hmax : s.maximum <;> simp [Side.AdmitsText]

/-- The constraints on an integer type admit the same integers as the bounds of the schema exactly
if each bound is kept by the rounding that its side asks for, or if neither admits any integer. -/
theorem admits_validationOf_iff (s : Schema) {tag : TypeTag} (h : tag.isIntegral = true) :
    (∀ x : ℤ, s.Admits x ↔ (validationOf s tag).Admits x) ↔
      ((∀ n ∈ s.minimum, n.KeptBy (Side.lower.rounding s.exclusiveMinimum)) ∧
          ∀ n ∈ s.maximum, n.KeptBy (Side.upper.rounding s.exclusiveMaximum)) ∨
        ∀ x : ℤ, ¬s.Admits x ∧ ¬(validationOf s tag).Admits x := by
  have hcast : ∀ {x y : ℤ}, x ≤ y → (x : ℚ) ≤ y := Int.cast_le.mpr
  rw [← Side.forall_admitsText_iff, ← Side.forall_admitsText_iff]
  simp only [admits_validationOf s h, Annotations.Admits]
  exact both_iff_both_iff (fun _ _ hxy => (Side.admits_mono (hcast hxy)).1)
    (fun _ _ hxy => (Side.admitsText_mono hxy).1) (fun _ _ hxy => (Side.admits_mono (hcast hxy)).2)
    (fun _ _ hxy => (Side.admitsText_mono hxy).2)

/-- One and a half, or what lies as far below zero. -/
def threeHalves (negative : Bool) : Number := .double ⟨negative, 3 * 2 ^ 51, -52⟩

/-- Integers from minus one and a half to one and a half. -/
def aroundZero : Schema :=
  { shape := .scalar .integer, minimum := threeHalves true, maximum := threeHalves false }

theorem admits_validationOf_aroundZero : (validationOf aroundZero .integer).minimum = some "-1" ∧
    (validationOf aroundZero .integer).maximum = some "1" ∧
    ∀ x : ℤ, aroundZero.Admits x ↔ (validationOf aroundZero .integer).Admits x := by
  refine ⟨by decide +kernel, by decide +kernel, ?_⟩
  refine (admits_validationOf_iff aroundZero rfl).mpr (.inl ⟨?_, ?_⟩)
  · rintro n ⟨⟩
    refine ⟨⟨by decide, by decide⟩, .inl ?_⟩
    norm_num [Side.rounding, aroundZero, Direction.TowardZero, Binary64.value]
  · rintro n ⟨⟩
    refine ⟨⟨by decide, by decide⟩, .inl ?_⟩
    norm_num [Side.rounding, aroundZero, Direction.TowardZero, Binary64.value]

/-- Integers of at least one and a half. -/
def aboveThreeHalves : Json :=
  .object [("type", .string "integer"), ("minimum", .number (threeHalves false))]

/-- The lower bound loses its fraction downward, so that one is admitted. -/
theorem admits_one_aboveThreeHalves : ∃ s, Schema.ofJson? aboveThreeHalves = some s ∧
    (validationOf s .integer).Admits (1 : ℤ) ∧ ¬s.Admits (1 : ℤ) := by
  refine ⟨_, rfl, (admits_validationOf _ rfl 1).mpr ⟨?_, ?_⟩, fun h => ?_⟩
  · rw [Side.admitsText_integralText_iff]
    rintro n ⟨⟩
    change ((threeHalves false).integral : ℚ) ≤ (1 : ℤ)
    exact Int.cast_le.mpr (by decide)
  · rintro t ⟨⟩
  · have hbound : (threeHalves false).value ≤ (1 : ℤ) := h.1 _ rfl
    norm_num [threeHalves, Number.value, Binary64.value] at hbound

end Property
end ApiResolution
