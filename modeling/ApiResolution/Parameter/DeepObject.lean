import ApiResolution.Context

/-!
Query parameters that are deep objects. Each property that is no object itself becomes a parameter
of its own, named by the path of properties that leads to it. A path enters no named schema twice
through a property, so it ends on circular schemas too.
-/

namespace ApiResolution
namespace ParameterObject

/-- Whether a schema has properties and is no map. -/
def hasMembers (s : Schema) : Bool :=
  !s.isMap && !(s.properties?.getD []).isEmpty

/-- Whether a name is required; the case of ASCII letters does not count. -/
def isRequired (required : List String) (name : String) : Bool :=
  required.any fun r => Text.toLowerAscii r == Text.toLowerAscii name

/-- The path of a property below a path. -/
def memberPath (path name : String) : String := path ++ "[" ++ name ++ "]"

/-- The parameter of a property, of which `target` is the schema behind references. -/
def leaf (d : ParameterObject) (path name : String) (required : List String) (s target : Schema) :
    ParameterObject where
  name := if target.isArray then memberPath path name ++ "[]" else memberPath path name
  location := d.location
  description := s.description
  required := isRequired required name
  deprecated := d.deprecated
  schema := some s
  explode := d.explode

mutual

/-- The parameters below an object written in place, where `enter` continues at a named schema. -/
def leaves (c : Context) (d : ParameterObject)
    (enter : List String → String → Schema → List ParameterObject) (visited : List String)
    (path : String) : Schema → List ParameterObject
  | ⟨_, .object ps rs⟩ => propertyLeaves c d enter visited path rs ps
  | ⟨_, .map _ ps rs⟩ => propertyLeaves c d enter visited path rs ps
  | ⟨_, .composed _ _ _ ps rs⟩ => propertyLeaves c d enter visited path rs ps
  | _ => []

/-- The parameters of properties and below them. -/
def propertyLeaves (c : Context) (d : ParameterObject)
    (enter : List String → String → Schema → List ParameterObject) (visited : List String)
    (path : String) (required : List String) : List (String × Schema) → List ParameterObject
  | [] => []
  | (name, s) :: ps =>
    (match c.refName? s with
      | none =>
        if hasMembers s then leaves c d enter visited (memberPath path name) s
        else [leaf d path name required s s]
      | some key =>
        let target := c.dereference s
        if hasMembers target then
          if visited.contains key then []
          else enter (key :: visited) (memberPath path name) target
        else [leaf d path name required s target])
    ++ propertyLeaves c d enter visited path required ps

end

/-- The parameters below a schema; `rest` bounds the named schemas that are entered inside each
other. -/
def leavesBelow (c : Context) (d : ParameterObject) :
    Nat → List String → String → Schema → List ParameterObject
  | 0, _, _, _ => []
  | rest + 1, visited, path, s => leaves c d (leavesBelow c d rest) visited path s

/-- The parameters that a deep object stands for; nothing when the parameter is no deep object. -/
def deepObject? (c : Context) (d : ParameterObject) : Option (List ParameterObject) :=
  if d.style = some "deepObject" ∧ ParameterLocation.ofKeyword? d.location = some .query then
    match d.schema with
    | none => none
    | some s =>
      let target := c.dereference s
      if hasMembers target then
        some (leavesBelow c d (c.schemas.length + 1) [] d.name target)
      else none
  else none

end ParameterObject
end ApiResolution
