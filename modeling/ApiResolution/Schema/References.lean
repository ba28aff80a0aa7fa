import ApiResolution.Schema

/-!
The references inside a schema, in a fixed order: branches or items first, then the value schema of
a map, then properties. `mapRefs` changes their texts and nothing else.
-/

namespace ApiResolution
namespace Schema

mutual

/-- The targets of the references inside a schema. -/
def refs : Schema → List String
  | ⟨_, shape⟩ => shapeRefs shape

/-- The targets of the references inside a shape. -/
def shapeRefs : Shape Schema → List String
  | .reference t => [t]
  | .array (some s) => refs s
  | .map (some v) ps _ => refs v ++ propertyRefs ps
  | .map none ps _ => propertyRefs ps
  | .object ps _ => propertyRefs ps
  | .composed a o n ps _ => listRefs a ++ listRefs o ++ listRefs n ++ propertyRefs ps
  | .array none => []
  | .scalar _ => []
  | .any => []

/-- The targets of the references inside branches. -/
def listRefs : List Schema → List String
  | [] => []
  | s :: ss => refs s ++ listRefs ss

/-- The targets of the references inside properties. -/
def propertyRefs : List (String × Schema) → List String
  | [] => []
  | (_, s) :: ps => refs s ++ propertyRefs ps

end

mutual

/-- Changes the target of every reference inside a schema. -/
def mapRefs (f : String → String) : Schema → Schema
  | ⟨a, shape⟩ => ⟨a, mapShapeRefs f shape⟩

/-- Changes the target of every reference inside a shape. -/
def mapShapeRefs (f : String → String) : Shape Schema → Shape Schema
  | .reference t => .reference (f t)
  | .array (some s) => .array (some (mapRefs f s))
  | .map (some v) ps rs => .map (some (mapRefs f v)) (mapPropertyRefs f ps) rs
  | .map none ps rs => .map none (mapPropertyRefs f ps) rs
  | .object ps rs => .object (mapPropertyRefs f ps) rs
  | .composed a o n ps rs =>
    .composed (mapListRefs f a) (mapListRefs f o) (mapListRefs f n) (mapPropertyRefs f ps) rs
  | .array none => .array none
  | .scalar t => .scalar t
  | .any => .any

/-- Changes the target of every reference inside branches. -/
def mapListRefs (f : String → String) : List Schema → List Schema
  | [] => []
  | s :: ss => mapRefs f s :: mapListRefs f ss

/-- Changes the target of every reference inside properties. -/
def mapPropertyRefs (f : String → String) : List (String × Schema) → List (String × Schema)
  | [] => []
  | (k, s) :: ps => (k, mapRefs f s) :: mapPropertyRefs f ps

end

mutual

/-- Changing targets changes the list of targets in the same way. -/
theorem refs_mapRefs (f : String → String) : (s : Schema) → (s.mapRefs f).refs = s.refs.map f
  | ⟨_, shape⟩ => shapeRefs_mapShapeRefs f shape

theorem shapeRefs_mapShapeRefs (f : String → String) :
    (shape : Shape Schema) → shapeRefs (mapShapeRefs f shape) = (shapeRefs shape).map f
  | .reference _ => rfl
  | .array (some s) => refs_mapRefs f s
  | .map (some v) ps _ => by
    simp [mapShapeRefs, shapeRefs, refs_mapRefs f v, propertyRefs_mapPropertyRefs f ps]
  | .map none ps _ => propertyRefs_mapPropertyRefs f ps
  | .object ps _ => propertyRefs_mapPropertyRefs f ps
  | .composed a o n ps _ => by
    simp [mapShapeRefs, shapeRefs, listRefs_mapListRefs f a, listRefs_mapListRefs f o,
      listRefs_mapListRefs f n, propertyRefs_mapPropertyRefs f ps]
  | .array none => rfl
  | .scalar _ => rfl
  | .any => rfl

theorem listRefs_mapListRefs (f : String → String) :
    (ss : List Schema) → listRefs (mapListRefs f ss) = (listRefs ss).map f
  | [] => rfl
  | s :: ss => by simp [mapListRefs, listRefs, refs_mapRefs f s, listRefs_mapListRefs f ss]

theorem propertyRefs_mapPropertyRefs (f : String → String) :
    (ps : List (String × Schema)) → propertyRefs (mapPropertyRefs f ps) = (propertyRefs ps).map f
  | [] => rfl
  | (_, s) :: ps => by
    simp [mapPropertyRefs, propertyRefs, refs_mapRefs f s, propertyRefs_mapPropertyRefs f ps]

end

mutual

theorem mapRefs_id : (s : Schema) → s.mapRefs id = s
  | ⟨a, shape⟩ => congrArg (Schema.mk a) (mapShapeRefs_id shape)

theorem mapShapeRefs_id : (shape : Shape Schema) → mapShapeRefs id shape = shape
  | .reference _ => rfl
  | .array (some s) => by rw [mapShapeRefs, mapRefs_id s]
  | .map (some v) ps _ => by rw [mapShapeRefs, mapRefs_id v, mapPropertyRefs_id ps]
  | .map none ps _ => by rw [mapShapeRefs, mapPropertyRefs_id ps]
  | .object ps _ => by rw [mapShapeRefs, mapPropertyRefs_id ps]
  | .composed a o n ps _ => by
    rw [mapShapeRefs, mapListRefs_id a, mapListRefs_id o, mapListRefs_id n, mapPropertyRefs_id ps]
  | .array none => rfl
  | .scalar _ => rfl
  | .any => rfl

theorem mapListRefs_id : (ss : List Schema) → mapListRefs id ss = ss
  | [] => rfl
  | s :: ss => by rw [mapListRefs, mapRefs_id s, mapListRefs_id ss]

theorem mapPropertyRefs_id : (ps : List (String × Schema)) → mapPropertyRefs id ps = ps
  | [] => rfl
  | (_, s) :: ps => by rw [mapPropertyRefs, mapRefs_id s, mapPropertyRefs_id ps]

end

end Schema
end ApiResolution
