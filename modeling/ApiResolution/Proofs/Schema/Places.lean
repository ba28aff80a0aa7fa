import ApiResolution.Schema.References

/-!
Places inside a schema. A step leads from a schema to one directly inside it, and `descend?` follows
steps. Changing the targets of references changes the schema at every place in the same way
(`descend?_mapRefs`) and no text but the targets (`textAt?_mapRefs`).
-/

namespace ApiResolution
namespace Schema

/-- A step from a schema to one directly inside it. -/
inductive Step where
  | items
  | value
  | property (index : Nat)
  | allOf (index : Nat)
  | oneOf (index : Nat)
  | anyOf (index : Nat)
deriving DecidableEq, Repr

/-- The schema that one step leads to. -/
def child? (s : Schema) : Step → Option Schema
  | .items =>
    match s.shape with
    | .array items => items
    | _ => none
  | .value =>
    match s.shape with
    | .map value _ _ => value
    | _ => none
  | .property i => (s.properties?.bind (·[i]?)).map (·.2)
  | .allOf i =>
    match s.shape with
    | .composed allOf _ _ _ _ => allOf[i]?
    | _ => none
  | .oneOf i =>
    match s.shape with
    | .composed _ oneOf _ _ _ => oneOf[i]?
    | _ => none
  | .anyOf i =>
    match s.shape with
    | .composed _ _ anyOf _ _ => anyOf[i]?
    | _ => none

/-- The schema that steps lead to. -/
def descend? (s : Schema) : List Step → Option Schema
  | [] => some s
  | step :: steps => (s.child? step).bind (·.descend? steps)

/-- Where a schema names another one: in its own target, or in a value of its discriminator. -/
inductive Slot where
  | target
  | mapping (index : Nat)
deriving DecidableEq, Repr

/-- The text with which a schema names another one. -/
def textAt? (s : Schema) : Slot → Option String
  | .target => s.refTarget?
  | .mapping i => (s.discriminator.bind (·.mapping[i]?)).map (·.2)

theorem descend?_append (s : Schema) (steps more : List Step) :
    s.descend? (steps ++ more) = (s.descend? steps).bind (·.descend? more) := by
  induction steps generalizing s with
  | nil => rfl
  | cons step steps ih =>
    rw [List.cons_append, descend?, descend?, Option.bind_assoc]
    congr 1
    funext t
    exact ih t

/-! ## Changed targets -/

theorem mapListRefs_eq_map (f : String → String) (ss : List Schema) :
    mapListRefs f ss = ss.map (mapRefs f) := by
  induction ss with
  | nil => rfl
  | cons s ss ih => rw [mapListRefs, List.map_cons, ih]

theorem mapPropertyRefs_eq_map (f : String → String) (ps : List (String × Schema)) :
    mapPropertyRefs f ps = ps.map fun e => (e.1, mapRefs f e.2) := by
  induction ps with
  | nil => rfl
  | cons p ps ih => rw [mapPropertyRefs, List.map_cons, ih]

theorem toAnnotations_mapRefs (f : String → String) (s : Schema) :
    (s.mapRefs f).toAnnotations = s.toAnnotations := by
  cases s
  rfl

theorem child?_mapRefs (f : String → String) (s : Schema) (step : Step) :
    (s.mapRefs f).child? step = (s.child? step).map (mapRefs f) := by
  rcases s with ⟨a, shape⟩
  cases shape with
  | array items => cases items <;> cases step <;> rfl
  | map value ps rs =>
    cases value <;> cases step <;>
      simp [child?, properties?, Shape.properties?, mapRefs, mapShapeRefs, mapPropertyRefs_eq_map,
        Function.comp_def]
  | object ps rs =>
    cases step <;>
      simp [child?, properties?, Shape.properties?, mapRefs, mapShapeRefs, mapPropertyRefs_eq_map,
        Function.comp_def]
  | composed allOf oneOf anyOf ps rs =>
    cases step <;>
      simp [child?, properties?, Shape.properties?, mapRefs, mapShapeRefs, mapListRefs_eq_map,
        mapPropertyRefs_eq_map, Function.comp_def]
  | _ => cases step <;> rfl

/-- The schema at a place follows the change of targets. -/
theorem descend?_mapRefs (f : String → String) (s : Schema) (steps : List Step) :
    (s.mapRefs f).descend? steps = (s.descend? steps).map (mapRefs f) := by
  induction steps generalizing s with
  | nil => rfl
  | cons step steps ih =>
    rw [descend?, descend?, child?_mapRefs, Option.bind_map, Option.map_bind]
    congr 1
    funext t
    exact ih t

/-- Only the targets of references change. -/
theorem textAt?_mapRefs (f : String → String) (s : Schema) (slot : Slot) :
    (s.mapRefs f).textAt? slot =
      match slot with
      | .target => (s.textAt? .target).map f
      | .mapping i => s.textAt? (.mapping i) := by
  cases slot with
  | mapping i =>
    exact congrArg (fun a : Annotations => (a.discriminator.bind (·.mapping[i]?)).map (·.2))
      (toAnnotations_mapRefs f s)
  | target =>
    rcases s with ⟨a, shape⟩
    cases shape with
    | array items => cases items <;> rfl
    | map value ps rs => cases value <;> rfl
    | _ => rfl

end Schema
end ApiResolution
