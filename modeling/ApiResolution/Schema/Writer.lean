import ApiResolution.Schema.Object
import ApiResolution.Json.Member
import ApiResolution.Json.Printer

/-!
The JSON form of schemas. Keywords come in a fixed order, absent ones are left out, and extensions
follow at the end.
-/

namespace ApiResolution

/-- The JSON form of a discriminator; an empty mapping is left out. -/
def Discriminator.toJson (d : Discriminator) : Json :=
  .object (("propertyName", .string d.propertyName) :: entriesMember "mapping" .string d.mapping)

/-- The JSON form of the `type` keyword. -/
def TypeKeyword.toJson : TypeKeyword → Json
  | single t => .string t
  | several ts => .strings ts

namespace PlainKeywords

/-- The members before the further schemas. -/
def leadingMembers (k : PlainKeywords) : List (String × Json) :=
  List.flatten [
    optionalMember "$ref" .string k.reference,
    optionalMember "type" TypeKeyword.toJson k.typeKeyword,
    optionalMember "format" .string k.format,
    optionalMember "title" .string k.title,
    optionalMember "description" .string k.description,
    optionalMember "enum" .array k.enumValues,
    optionalMember "const" id k.constValue,
    optionalMember "default" id k.defaultValue,
    optionalMember "example" id k.exampleValue,
    optionalMember "nullable" .bool k.nullable,
    optionalMember "readOnly" .bool k.readOnly,
    optionalMember "writeOnly" .bool k.writeOnly,
    optionalMember "minimum" .number k.minimum,
    optionalMember "maximum" .number k.maximum,
    optionalMember "exclusiveMinimum" id k.exclusiveMinimum,
    optionalMember "exclusiveMaximum" id k.exclusiveMaximum,
    optionalMember "multipleOf" .number k.multipleOf,
    optionalMember "minLength" .ofNat k.minLength,
    optionalMember "maxLength" .ofNat k.maxLength,
    optionalMember "pattern" .string k.pattern,
    optionalMember "minItems" .ofNat k.minItems,
    optionalMember "maxItems" .ofNat k.maxItems,
    optionalMember "uniqueItems" .bool k.uniqueItems]

/-- The members after the further schemas. -/
def closingMembers (k : PlainKeywords) : List (String × Json) :=
  optionalMember "discriminator" Discriminator.toJson k.discriminator ++ k.others

end PlainKeywords

namespace SchemaObject

mutual

/-- The JSON form of a schema object. -/
def toJson : SchemaObject → Json
  | ⟨k, items, properties, additional, allOf, oneOf, anyOf⟩ =>
    objectOf [
      k.leadingMembers,
      itemsMember items,
      propertiesMember properties,
      optionalMember "required" .strings k.required,
      additionalMember additional,
      branchesMember "allOf" allOf,
      branchesMember "oneOf" oneOf,
      branchesMember "anyOf" anyOf,
      k.closingMembers]

/-- The `items` member. -/
def itemsMember : Option SchemaObject → List (String × Json)
  | some o => [("items", toJson o)]
  | none => []

/-- The `properties` member. -/
def propertiesMember : Option (List (String × SchemaObject)) → List (String × Json)
  | some ps => [("properties", .object (entriesJson ps))]
  | none => []

/-- The `additionalProperties` member. -/
def additionalMember : Option (AdditionalKeyword SchemaObject) → List (String × Json)
  | some (.flag b) => [("additionalProperties", .bool b)]
  | some (.schema o) => [("additionalProperties", toJson o)]
  | none => []

/-- A member that lists branches. -/
def branchesMember (name : String) : Option (List SchemaObject) → List (String × Json)
  | some os => [(name, .array (listJson os))]
  | none => []

/-- The JSON forms of branches. -/
def listJson : List SchemaObject → List Json
  | [] => []
  | o :: os => toJson o :: listJson os

/-- The JSON forms of properties. -/
def entriesJson : List (String × SchemaObject) → List (String × Json)
  | [] => []
  | (k, o) :: ps => (k, toJson o) :: entriesJson ps

end

end SchemaObject

namespace Schema

/-- The JSON form of a schema. -/
def toJson (s : Schema) : Json := (SchemaObject.ofSchema s).toJson

/-- The indented JSON text of a schema. -/
def prettyText (s : Schema) : String := s.toJson.pretty

end Schema
end ApiResolution
