import ApiResolution.Conventions
import ApiResolution.Diagnostic
import ApiResolution.Document
import ApiResolution.Options
import ApiResolution.TypeTag

/-!
What every part of a resolution looks at: the document, the options and the conventions. Here
references are followed, to named schemas and to named components, never further than `maxHops`.
-/

namespace ApiResolution

/-- The surroundings of a resolution. -/
structure Context where
  options : Options
  conventions : Conventions
  document : Document

/-- The type that a schema gives to its name, if the name is only another word for it: the schema is
a scalar that does not list its values. -/
def Schema.aliasTag? (self : Option String) (s : Schema) : Option TypeTag :=
  match s.shape with
  | .scalar _ => if s.isEnum then none else some (s.typeTag self)
  | _ => none

namespace Context

/-- The number of references that are followed before a chain counts as circular. -/
def maxHops : Nat := 32

/-- The address of the document. -/
def self (c : Context) : Option String := c.document.self

/-- The named schemas. -/
def schemas (c : Context) : Entries Schema := c.document.components.schemas

/-- The schema of a name. -/
def schema? (c : Context) (name : String) : Option Schema := Entries.lookup? name c.schemas

/-- The name that a schema refers to, if it is a reference. -/
def refName? (c : Context) (s : Schema) : Option String := s.refName? c.self

/-- The type that a name is only another word for. -/
def alias? (c : Context) (name : String) : Option TypeTag :=
  (c.schema? name).bind (Schema.aliasTag? c.self)

/-- Whether a name is only another word for a type. -/
def isAlias (c : Context) (name : String) : Bool := (c.alias? name).isSome

/-- The names that are only other words for types. -/
def aliases (c : Context) : Entries TypeTag :=
  c.schemas.filterMap fun e => (e.2.aliasTag? c.self).map (e.1, ·)

/-- The type of a schema. A reference to a name without a schema is noted, and so is a reference
that names nothing. -/
def typeTag (c : Context) (s : Schema) : Noted TypeTag :=
  let tag := s.typeTag c.self
  match s.refTarget?, tag with
  | some target, .reference name =>
    if (c.schema? name).isNone then do
      Noted.reportUndefined name target
      return tag
    else pure tag
  | some target, .object => do
    Noted.diagnose .unresolvedReference target
      ("Reference '" ++ target ++ "' names no schema; using object")
    return tag
  | _, _ => pure tag

/-- The schema at the end of a chain of references that is no longer than `hops`, meets no name
twice and has no undefined link. -/
def chainEnd? (c : Context) : Nat → List String → Schema → Option Schema
  | 0, _, _ => none
  | hops + 1, seen, s =>
    match c.refName? s with
    | none => some s
    | some name =>
      if seen.contains name then none
      else
        match c.schema? name with
        | some target => c.chainEnd? hops (name :: seen) target
        | none => none

/-- The schema at the end of the chain of references from a schema, and the schema itself when the
chain has no end. -/
def dereference (c : Context) (s : Schema) : Schema := (c.chainEnd? maxHops [] s).getD s

/-- The part at the end of a chain of references, each looked up among the components of a section.
A reference to nothing is noted. -/
def componentFrom? {α : Type} (c : Context) (sectionName : String)
    (components : Entries (OrReference α)) : Nat → OrReference α → Noted (Option α)
  | 0, _ => pure none
  | hops + 1, part =>
    match part with
    | .inline value => pure (some value)
    | .reference target =>
      match (Reference.componentName? target c.self sectionName).bind
          fun name => Entries.lookup? name components with
      | some next => c.componentFrom? sectionName components hops next
      | none => do
        Noted.diagnose .unresolvedReference target
          ("Component '" ++ target ++ "' is not defined in " ++ sectionName)
        return none

/-- A parameter, followed through references. -/
def parameter? (c : Context) : OrReference ParameterObject → Noted (Option ParameterObject) :=
  c.componentFrom? "parameters" c.document.components.parameters maxHops

/-- A request body, followed through references. -/
def requestBody? (c : Context) : OrReference RequestBodyObject → Noted (Option RequestBodyObject) :=
  c.componentFrom? "requestBodies" c.document.components.requestBodies maxHops

/-- A response, followed through references. -/
def response? (c : Context) : OrReference ResponseObject → Noted (Option ResponseObject) :=
  c.componentFrom? "responses" c.document.components.responses maxHops

/-- A header, followed through references. -/
def header? (c : Context) : OrReference HeaderObject → Noted (Option HeaderObject) :=
  c.componentFrom? "headers" c.document.components.headers maxHops

end Context
end ApiResolution
