import ApiResolution.Diagnostic
import ApiResolution.Model

/-!
The links between the models of a map. A parent or an interface that is a model is marked as such,
and a model is a child of each ancestor up to the nearest one with a discriminator. A parent chain
that meets a model again ends there.
-/

namespace ApiResolution
namespace ModelMap

/-- The ancestors from a parent on, up to the first one with a discriminator; `rest` bounds their
number. -/
def ancestorsFrom (models : ModelMap) : Nat → List String → Option String → List Model
  | 0, _, _ => []
  | _ + 1, _, none => []
  | rest + 1, visited, some name =>
    match Entries.lookup? name models with
    | none => []
    | some m =>
      if visited.contains name then []
      else if m.discriminator.isSome then [m]
      else m :: ancestorsFrom models rest (name :: visited) m.parent

/-- The ancestors that a model under some name is a child of, the nearest one first. -/
def ancestors (models : ModelMap) (name : String) (m : Model) : List Model :=
  ancestorsFrom models (models.length + 1) [name] m.parent

/-- Notes that a model and its ancestor are told apart by different properties. -/
def noteConflict (name : String) (m ancestor : Model) : Noted Unit :=
  match m.discriminator, ancestor.discriminator with
  | some mine, some theirs =>
    if mine.propertyName = theirs.propertyName then pure ()
    else Noted.diagnose .discriminatorConflict name
      ("Discriminator '" ++ mine.propertyName ++ "' differs from '" ++ theirs.propertyName ++
        "' declared by ancestor '" ++ ancestor.name ++ "'")
  | _, _ => pure ()

/-- The pairs of an ancestor and its child. -/
def registrations (models : ModelMap) : List (String × String) :=
  models.flatMap fun (name, m) => (ancestors models name m).map fun a => (a.name, name)

/-- Adds a child to a model. -/
def addChild (models : ModelMap) (registration : String × String) : ModelMap :=
  Entries.modify registration.1
    (fun m => { m with children := insertText registration.2 m.children }) models

/-- Marks the parent and the interfaces that are models. -/
def markLinks (models : ModelMap) : ModelMap :=
  Entries.mapValues (fun m =>
    { m with
      parentModel := m.parent.filter fun p => Entries.contains p models
      interfaceModels := m.interfaces.filter fun i => Entries.contains i models }) models

/-- Links parents, children and interfaces. -/
def link (models : ModelMap) : Noted ModelMap := do
  let _ ← Noted.mapList
    (fun (name, m) => Noted.mapList (noteConflict name m) (ancestors models name m)) models
  return (registrations models).foldl addChild (markLinks models)

end ModelMap
end ApiResolution
