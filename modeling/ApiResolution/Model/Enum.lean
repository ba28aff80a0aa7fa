import ApiResolution.Model
import ApiResolution.Property.Enum

/-!
The enums of models: their members are named, and an enum that a parent declares already is dropped
from its children.
-/

namespace ApiResolution
namespace Model

/-- Names the members of an enum model and of all enums among the members of a model. -/
def nameEnums (v : Conventions) (m : Model) : Model :=
  { m with
    enumValues :=
      if m.isEnum then m.enumValues.map fun e =>
        { e with members := EnumValues.membersOf v e.values (m.dataType.getD "") }
      else m.enumValues
    vars := m.vars.map (Property.nameIfEnum v)
    allVars := m.allVars.map (Property.nameIfEnum v) }

/-- Whether two properties are the same enum. -/
def sameEnum (p q : Property) : Bool :=
  p.isEnum && q.isEnum && p.name == q.name && p.baseType == q.baseType && p.datatype == q.datatype

/-- The names of the enums of a model that its parent declares. -/
def inheritedEnums (parent m : Model) : List String :=
  (m.vars.filter fun p => parent.vars.any (sameEnum · p)).map (·.name)

/-- Drops the members of the given names. -/
def dropVars (names : List String) (m : Model) : Model :=
  reindex { m with vars := m.vars.filter fun p => !names.contains p.name }

end Model

namespace ModelMap

/-- The models that declare enums of their parents again, with the names of those enums. -/
def redeclared (models : ModelMap) : List (String × List String) :=
  (Entries.values models).filterMap fun m => do
    let parent ← Entries.lookup? (← m.parentModel) models
    let names := Model.inheritedEnums parent m
    if names.isEmpty then none else some (m.name, names)

/-- Drops from each model the enums that its parent declares. -/
def dropInheritedEnums (models : ModelMap) : ModelMap :=
  (redeclared models).foldl
    (fun ms e => Entries.modify e.1 (Model.dropVars e.2) ms) models

end ModelMap
end ApiResolution
