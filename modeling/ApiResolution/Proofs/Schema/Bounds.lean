import ApiResolution.Proofs.Number.Value
import ApiResolution.Proofs.Schema.Object
import ApiResolution.Schema.Reader
import Mathlib.Order.Lattice
import Mathlib.Algebra.Order.Ring.Rat

/-!
The numbers that a schema admits, as exact numbers. On each side a schema object may write two
limits, an inclusive bound and a strict one, and a schema keeps one of them. Settling the spellings
never refuses a number that is admitted as written, and it admits no further number unless a strict
bound takes the place of a tighter one (`admits_ofObject_iff`).
-/

namespace ApiResolution

/-- Whether a keyword is a flag that is set. -/
def PlainKeywords.isSet : Option Json → Bool
  | some (.bool flag) => flag
  | _ => false

/-- The two sides on which numbers are limited. -/
inductive Side where
  | lower
  | upper

namespace Side

/-- A number obeys a limit; a strict limit is not admitted itself. -/
def Obeys : Side → Bool → ℚ → ℚ → Prop
  | lower, false, limit, x => limit ≤ x
  | lower, true, limit, x => limit < x
  | upper, false, limit, x => x ≤ limit
  | upper, true, limit, x => x < limit

/-- A number obeys a bound, if there is one. -/
def Admits (side : Side) (bound : Option Number) (strict : Bool) (x : ℚ) : Prop :=
  ∀ n ∈ bound, side.Obeys strict n.value x

/-- A number obeys a bound and the keyword beside it as they are written: a flag that is set makes
the bound strict, and a number is a strict bound of its own. -/
def AdmitsWritten (side : Side) (bound : Option Number) (exclusive : Option Json) (x : ℚ) : Prop :=
  side.Admits bound (PlainKeywords.isSet exclusive) x ∧
    ∀ n, exclusive = some (.number n) → side.Obeys true n.value x

/-- A strict bound lies within the bound whose place it takes. -/
def Tightens (side : Side) (bound : Option Number) (exclusive : Option Json) : Prop :=
  ∀ n, exclusive = some (.number n) → side.Admits bound false n.value

/-- A number obeys the bound that the spellings settle to. -/
def AdmitsSettled (side : Side) (bound : Option Number) (exclusive : Option Json) (x : ℚ) : Prop :=
  side.Admits (PlainKeywords.settleBound bound exclusive).1
    (PlainKeywords.settleBound bound exclusive).2 x

variable {side : Side} {bound : Option Number} {exclusive : Option Json}

theorem admitsSettled_number {n : Number} {x : ℚ} :
    side.AdmitsSettled bound (some (.number n)) x ↔ side.Obeys true n.value x := by
  simp [AdmitsSettled, PlainKeywords.settleBound, Admits]

theorem admitsSettled_iff (h : ∀ n, exclusive ≠ some (.number n)) {x : ℚ} :
    side.AdmitsSettled bound exclusive x ↔ side.AdmitsWritten bound exclusive x := by
  have hnone : ∀ n, exclusive = some (.number n) → side.Obeys true n.value x :=
    fun n hn => absurd hn (h n)
  rw [AdmitsWritten, and_iff_left hnone, AdmitsSettled]
  rcases exclusive with _ | j
  · rfl
  · cases j with
    | bool flag => rfl
    | number n => exact absurd rfl (h n)
    | _ => rfl

theorem admitsSettled_of_admitsWritten {x : ℚ} (h : side.AdmitsWritten bound exclusive x) :
    side.AdmitsSettled bound exclusive x := by
  by_cases hn : ∃ n, exclusive = some (.number n)
  · obtain ⟨n, rfl⟩ := hn
    exact admitsSettled_number.mpr (h.2 n rfl)
  · exact (admitsSettled_iff (not_exists.mp hn)).mpr h

/-- All that obey a strict limit obey a limit exactly if the strict one itself does. -/
theorem forall_obeys_iff (side : Side) (limit strictLimit : ℚ) :
    (∀ x, side.Obeys true strictLimit x → side.Obeys false limit x) ↔
      side.Obeys false limit strictLimit := by
  cases side with
  | lower => exact forall_gt_imp_ge_iff_le_of_dense
  | upper => exact forall_lt_imp_le_iff_le_of_dense

theorem forall_admits_iff : (∀ x, side.AdmitsSettled bound exclusive x →
    side.AdmitsWritten bound exclusive x) ↔ side.Tightens bound exclusive := by
  by_cases hn : ∃ n, exclusive = some (.number n)
  · obtain ⟨n, rfl⟩ := hn
    have hflag : PlainKeywords.isSet (some (.number n)) = false := rfl
    simp only [admitsSettled_number, AdmitsWritten, Tightens, hflag, Option.some.injEq,
      Json.number.injEq, forall_eq', Admits]
    constructor
    · intro h b hb
      exact (forall_obeys_iff side b.value n.value).mp fun x hx => (h x hx).1 b hb
    · intro h x hx
      exact ⟨fun b hb => (forall_obeys_iff side b.value n.value).mpr (h b hb) x hx, hx⟩
  · have hnone := not_exists.mp hn
    exact iff_of_true (fun _ => (admitsSettled_iff hnone).mp) fun n h => absurd h (hnone n)

/-- What obeys a lower limit is followed by numbers that do, and what obeys an upper one is preceded
by such. -/
theorem obeys_mono {strict : Bool} {limit x y : ℚ} (hxy : x ≤ y) :
    (lower.Obeys strict limit x → lower.Obeys strict limit y) ∧
      (upper.Obeys strict limit y → upper.Obeys strict limit x) := by
  cases strict with
  | false => exact ⟨fun h => le_trans h hxy, fun h => le_trans hxy h⟩
  | true => exact ⟨fun h => lt_of_lt_of_le h hxy, fun h => lt_of_le_of_lt hxy h⟩

theorem admits_mono {strict : Bool} {x y : ℚ} (hxy : x ≤ y) :
    (lower.Admits bound strict x → lower.Admits bound strict y) ∧
      (upper.Admits bound strict y → upper.Admits bound strict x) :=
  ⟨fun h n hn => (obeys_mono hxy).1 (h n hn), fun h n hn => (obeys_mono hxy).2 (h n hn)⟩

theorem admitsWritten_mono {x y : ℚ} (hxy : x ≤ y) :
    (lower.AdmitsWritten bound exclusive x → lower.AdmitsWritten bound exclusive y) ∧
      (upper.AdmitsWritten bound exclusive y → upper.AdmitsWritten bound exclusive x) :=
  ⟨fun h => ⟨(admits_mono hxy).1 h.1, fun n hn => (obeys_mono hxy).1 (h.2 n hn)⟩,
    fun h => ⟨(admits_mono hxy).2 h.1, fun n hn => (obeys_mono hxy).2 (h.2 n hn)⟩⟩

end Side

/-- Conjunctions of a property that larger elements keep and one that smaller elements keep agree
exactly if both properties do or if no element has both. -/
theorem both_iff_both_iff {α : Type} [LinearOrder α] {p p' q q' : α → Prop} (hp : Monotone p)
    (hp' : Monotone p') (hq : Antitone q) (hq' : Antitone q') :
    (∀ x, p x ∧ q x ↔ p' x ∧ q' x) ↔
      ((∀ x, p x ↔ p' x) ∧ ∀ x, q x ↔ q' x) ∨ ∀ x, ¬(p x ∧ q x) ∧ ¬(p' x ∧ q' x) := by
  constructor
  · intro h
    by_cases hsome : ∃ x, p x ∧ q x
    · obtain ⟨x, hx⟩ := hsome
      have hx' := (h x).mp hx
      refine .inl ⟨fun y => ?_, fun y => ?_⟩
      · rcases le_total x y with hxy | hyx
        · exact iff_of_true (hp hxy hx.1) (hp' hxy hx'.1)
        · have := h y
          rwa [and_iff_left (hq hyx hx.2), and_iff_left (hq' hyx hx'.2)] at this
      · rcases le_total x y with hxy | hyx
        · have := h y
          rwa [and_iff_right (hp hxy hx.1), and_iff_right (hp' hxy hx'.1)] at this
        · exact iff_of_true (hq hyx hx.2) (hq' hyx hx'.2)
    · have hnone := not_exists.mp hsome
      exact .inr fun x => ⟨hnone x, fun hx => hnone x ((h x).mpr hx)⟩
  · rintro (⟨hpp, hqq⟩ | hnone) x
    · rw [hpp, hqq]
    · exact iff_of_false (hnone x).1 (hnone x).2

/-- A number obeys the bounds of a schema. -/
def Annotations.Admits (a : Annotations) (x : ℚ) : Prop :=
  Side.lower.Admits a.minimum a.exclusiveMinimum x ∧
    Side.upper.Admits a.maximum a.exclusiveMaximum x

/-- A number obeys the bounds of a schema object as they are written. -/
def PlainKeywords.Admits (k : PlainKeywords) (x : ℚ) : Prop :=
  Side.lower.AdmitsWritten k.minimum k.exclusiveMinimum x ∧
    Side.upper.AdmitsWritten k.maximum k.exclusiveMaximum x

namespace Schema

/-- The schema of an object admits what obeys the bounds that the two sides settle to. -/
theorem admits_ofObject (o : SchemaObject) (x : ℚ) : (ofObject o).Admits x ↔
    Side.lower.AdmitsSettled o.minimum o.exclusiveMinimum x ∧
      Side.upper.AdmitsSettled o.maximum o.exclusiveMaximum x := by
  rw [toAnnotations_ofObject]
  rfl

/-- The schema of an object admits every number that the object admits as it is written. They admit
the same numbers exactly if on both sides a strict bound that takes the place of an inclusive one is
the tighter of the two, or if there is no number that the schema admits. -/
theorem admits_ofObject_iff (o : SchemaObject) :
    (∀ x, o.Admits x → (ofObject o).Admits x) ∧
      ((∀ x, o.Admits x ↔ (ofObject o).Admits x) ↔
        (Side.lower.Tightens o.minimum o.exclusiveMinimum ∧
            Side.upper.Tightens o.maximum o.exclusiveMaximum) ∨
          ∀ x, ¬(ofObject o).Admits x) := by
  have hkept : ∀ x, o.Admits x → (ofObject o).Admits x := fun x hx =>
    (admits_ofObject o x).mpr ⟨Side.admitsSettled_of_admitsWritten hx.1,
      Side.admitsSettled_of_admitsWritten hx.2⟩
  have hside : ∀ {side : Side} {bound exclusive},
      (∀ x, side.AdmitsWritten bound exclusive x ↔ side.AdmitsSettled bound exclusive x) ↔
        side.Tightens bound exclusive := by
    intro side bound exclusive
    rw [← Side.forall_admits_iff]
    exact ⟨fun h x => (h x).mpr, fun h x => ⟨Side.admitsSettled_of_admitsWritten, h x⟩⟩
  refine ⟨hkept, ?_⟩
  calc (∀ x, o.Admits x ↔ (ofObject o).Admits x)
      ↔ _ := by
        simp only [PlainKeywords.Admits, admits_ofObject]
        exact both_iff_both_iff (fun _ _ h => (Side.admitsWritten_mono h).1)
          (fun _ _ h => (Side.admits_mono h).1) (fun _ _ h => (Side.admitsWritten_mono h).2)
          (fun _ _ h => (Side.admits_mono h).2)
    _ ↔ _ := by
        rw [hside, hside]
        refine or_congr_right (forall_congr' fun x => ?_)
        rw [← admits_ofObject]
        exact and_iff_right_of_imp fun h hx => h (hkept x hx)

/-- Numbers of at least ten that are above five as well. -/
def tenAboveFive : Json :=
  .object [("type", .string "number"), ("minimum", .ofNat 10), ("exclusiveMinimum", .ofNat 5)]

/-- The strict bound takes the place of the tighter inclusive one, so that seven is admitted. -/
theorem admits_seven_tenAboveFive : ∃ o, SchemaObject.read? (.ofJson tenAboveFive) = some o ∧
    (ofObject o).Admits 7 ∧ ¬o.Admits 7 := by
  refine ⟨_, rfl, ⟨fun n hn => ?_, fun n hn => ?_⟩, fun h => ?_⟩
  · obtain rfl : Number.integer 5 = n := Option.some.inj hn
    change ((5 : ℤ) : ℚ) < 7
    norm_num
  · exact absurd hn (Option.not_mem_none n)
  · have hten : ((10 : ℤ) : ℚ) ≤ 7 := h.1.1 (.integer 10) rfl
    norm_num at hten

end Schema
end ApiResolution
