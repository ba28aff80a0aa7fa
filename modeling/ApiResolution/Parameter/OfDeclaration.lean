import ApiResolution.Model
import ApiResolution.Property.Enum

/-!
The parameter of a declaration. It is typed like a member of a model of the same name and schema;
its default value is the one that the schema declares.
-/

namespace ApiResolution

/-- A part of an operation with the names of the models that it uses. -/
structure Using (α : Type) where
  value : α
  imports : List String

/-- The models that a property refers to, at all levels. -/
def Property.imports (v : Conventions) (p : Property) : List String :=
  (p.levels.filterMap (·.complexType)).filter fun name => !v.isPrimitive name

/-- The schema of a declared parameter, or of its first media type, which is then named. -/
def ParameterObject.effectiveSchema? (d : ParameterObject) : Option (Schema × Option String) :=
  match d.schema with
  | some s => some (s, none)
  | none =>
    match d.content with
    | some ((contentType, media) :: _) => media.schema.map fun s => (s, some contentType)
    | _ => none

/-- How a declared array parameter is written; exploded unless it says otherwise. -/
def ParameterObject.collectionFormat? (d : ParameterObject) : Option CollectionFormat :=
  if d.explode.getD true then some .multi
  else
    match d.style with
    | none => some .csv
    | some "form" => some .csv
    | some "pipeDelimited" => some .pipe
    | some "spaceDelimited" => some .space
    | some _ => none

namespace Parameter

/-- The type of what a parameter holds: the items of a container, or the model that it refers to. -/
def heldType (p : Property) : String :=
  match p.items with
  | some items => items.datatype
  | none => p.complexType.getD p.baseType

/-- Gives a parameter the type of a property. -/
def withType (property : Property) (p : Parameter) : Parameter :=
  { p with
    dataType := property.datatype
    baseType := some (heldType property)
    container := property.container
    flags := property.flags
    validation := property.validation
    hasValidation := property.hasValidation
    isEnum := p.isEnum || property.isEnum
    datatypeWithEnum :=
      if property.isEnum then some property.datatypeWithEnum else p.datatypeWithEnum
    enumName := if property.isEnum then property.enumName else p.enumName
    enumValues := property.enumValues
    items := property.items }

/-- Whether a declaration at a location keeps the default value of its schema. -/
def keepsDefault (location : Option ParameterLocation) : Bool :=
  location == some .query || location == some .header

/-- What a declaration and its schema say of a parameter apart from its type. -/
def declared (v : Conventions) (d : ParameterObject) (s : Schema) (contentType : Option String) :
    Parameter :=
  let location := ParameterLocation.ofKeyword? d.location
  { baseName := d.name
    paramName := v.paramName d.name
    description := d.description
    location
    required := d.required || location == some .path
    deprecated := d.deprecated
    extensions := extensionEntries d.others
    contentType
    defaultText := if keepsDefault location then v.defaultText s else none
    nullable := s.nullable
    dataFormat := s.format }

/-- The example of a parameter: the declared one, or one by convention. -/
def exampleOf (v : Conventions) (d : ParameterObject) (p : Parameter) : String :=
  match (Entries.lookup? "x-example" d.others).or d.exampleValue with
  | some e => plainText e
  | none => v.parameterExample p

/-- The parameter of a declaration with the given schema. -/
def ofSchema (c : Context) (d : ParameterObject) (s : Schema) (contentType : Option String) :
    Noted (Using Parameter) := do
  let v := c.conventions
  let built ← Property.ofSchema c d.name s
  let property := Property.nameIfEnum v built
  let typed := withType property (declared v d s contentType)
  let formatted : Parameter :=
    { typed with
      collectionFormat := if typed.container = .array then d.collectionFormat? else none }
  let p : Parameter := { formatted with exampleText := some (exampleOf v d formatted) }
  return ⟨v.finishParameter p, property.imports v⟩

/-- The parameter of a declaration. Without a schema it is an object, which is noted. -/
def ofDeclaration (c : Context) (d : ParameterObject) : Noted (Using Parameter) :=
  match d.effectiveSchema? with
  | some (s, contentType) => ofSchema c d s contentType
  | none => do
    Noted.diagnose .missingSchema d.name
      ("Parameter '" ++ d.name ++ "' has neither schema nor content; using object")
    ofSchema c d .emptyObject none

end Parameter
end ApiResolution
