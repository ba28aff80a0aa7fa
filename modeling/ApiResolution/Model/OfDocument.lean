import ApiResolution.Model.Enum
import ApiResolution.Model.Hierarchy
import ApiResolution.Model.OfSchema

/-!
The models of a document: one for each named schema in order, followed by the models of unions whose
names are still free.
-/

namespace ApiResolution
namespace ModelMap

/-- Adds a model under its name, unless the name is taken. -/
def addFree (models : ModelMap) (m : Model) : ModelMap :=
  if Entries.contains m.name models then models else Entries.insert m.name m models

/-- The models before they are linked. -/
def ofSchemas (c : Context) : Noted ModelMap := do
  let built ← Noted.mapList
    (fun e => do return (e.1, ← Model.ofSchema c e.1 e.2)) c.schemas
  let named := Entries.ofList (built.map fun e => (e.1, e.2.value))
  return (built.flatMap fun e => e.2.unions).foldl addFree named

/-- The models with their links, under inheritance, and with named enum members. -/
def ofDocument (c : Context) : Noted ModelMap := do
  let models ← ofSchemas c
  let linked ← if c.options.supportsInheritance then link models else pure models
  return dropInheritedEnums (Entries.mapValues (Model.nameEnums c.conventions) linked)

end ModelMap
end ApiResolution
