import ApiResolution.Schema.Object
import ApiResolution.Source

/-!
Reading schemas. Every keyword is optional and null is its absence; a keyword of the wrong kind
refuses the whole schema.
-/

namespace ApiResolution

/-- Reads a discriminator. -/
def Discriminator.read? (source : Source) : Option Discriminator := do
  let ms ← source.record? ["propertyName", "mapping"]
  let propertyName ← Source.required? ms "propertyName" Source.string?
  let mapping ← Source.field? ms "mapping" [] (Source.entries? Source.string?)
  return { propertyName, mapping }

/-- Reads the `type` keyword. -/
def TypeKeyword.read? : Source → Option TypeKeyword
  | .sequence xs => (xs.mapM Source.string?).map several
  | source => source.string?.map single

namespace PlainKeywords

/-- The names of all keywords, those with further schemas included. -/
def names : List String :=
  ["$ref", "type", "format", "title", "description", "enum", "const", "default", "example",
    "nullable", "readOnly", "writeOnly", "minimum", "maximum", "exclusiveMinimum",
    "exclusiveMaximum", "multipleOf", "minLength", "maxLength", "pattern", "minItems", "maxItems",
    "uniqueItems", "items", "properties", "required", "additionalProperties", "allOf", "oneOf",
    "anyOf", "discriminator"]

/-- Reads the keywords that hold no further schema. -/
def read? (ms : List (String × Source)) : Option PlainKeywords := do
  let text (name : String) := Source.optionalField? ms name Source.string?
  let flag (name : String) := Source.optionalField? ms name Source.bool?
  let number (name : String) := Source.optionalField? ms name Source.number?
  let count (name : String) := Source.optionalField? ms name Source.count?
  let value (name : String) := Source.optionalField? ms name Source.json?
  let reference ← text "$ref"
  let typeKeyword ← Source.optionalField? ms "type" TypeKeyword.read?
  let format ← text "format"
  let title ← text "title"
  let description ← text "description"
  let enumValues ← Source.optionalField? ms "enum" (Source.list? Source.json?)
  let constValue ← value "const"
  let defaultValue ← value "default"
  let exampleValue ← value "example"
  let nullable ← flag "nullable"
  let readOnly ← flag "readOnly"
  let writeOnly ← flag "writeOnly"
  let minimum ← number "minimum"
  let maximum ← number "maximum"
  let exclusiveMinimum ← value "exclusiveMinimum"
  let exclusiveMaximum ← value "exclusiveMaximum"
  let multipleOf ← number "multipleOf"
  let minLength ← count "minLength"
  let maxLength ← count "maxLength"
  let pattern ← text "pattern"
  let minItems ← count "minItems"
  let maxItems ← count "maxItems"
  let uniqueItems ← flag "uniqueItems"
  let required ← Source.optionalField? ms "required" (Source.list? Source.string?)
  let discriminator ← Source.optionalField? ms "discriminator" Discriminator.read?
  let others ← Source.others? names ms
  return {
    reference, typeKeyword, format, title, description, enumValues, constValue, defaultValue
    exampleValue, nullable, readOnly, writeOnly, minimum, maximum, exclusiveMinimum
    exclusiveMaximum, multipleOf, minLength, maxLength, pattern, minItems, maxItems, uniqueItems
    required, discriminator, others }

end PlainKeywords

namespace SchemaObject

mutual

/-- Reads a schema object. -/
def read? : Source → Option SchemaObject
  | .mapping es => do
    let ms ← Source.openRecord? PlainKeywords.names (.mapping es)
    let k ← PlainKeywords.read? ms
    readNested es { k with }
  | _ => none

/-- Reads the members that hold further schemas. -/
def readNested : List (Key × Source) → SchemaObject → Option SchemaObject
  | [], o => some o
  | (k, v) :: es, o =>
    if v.isNull then readNested es o
    else
      match k.name? with
      | some "items" => do
        let s ← read? v
        readNested es { o with items := some s }
      | some "properties" => do
        let ps ← readProperties v
        readNested es { o with properties := some ps }
      | some "additionalProperties" => do
        let a ← match v.bool? with
          | some b => some (.flag b)
          | none => (read? v).map .schema
        readNested es { o with additional := some a }
      | some "allOf" => do
        let ss ← readBranches v
        readNested es { o with allOf := some ss }
      | some "oneOf" => do
        let ss ← readBranches v
        readNested es { o with oneOf := some ss }
      | some "anyOf" => do
        let ss ← readBranches v
        readNested es { o with anyOf := some ss }
      | _ => readNested es o

/-- Reads a list of branches. -/
def readBranches : Source → Option (List SchemaObject)
  | .sequence xs => readList xs
  | _ => none

/-- Reads schema objects one after the other. -/
def readList : List Source → Option (List SchemaObject)
  | [] => some []
  | x :: xs => do
    let s ← read? x
    let ss ← readList xs
    return s :: ss

/-- Reads properties; a repeated name keeps its first place and its last schema. -/
def readProperties : Source → Option (List (String × SchemaObject))
  | .mapping es => (readEntries es).map Entries.ofList
  | _ => none

/-- Reads named schema objects one after the other. -/
def readEntries : List (Key × Source) → Option (List (String × SchemaObject))
  | [] => some []
  | (k, v) :: es => do
    let key ← k.name?
    let s ← read? v
    let ss ← readEntries es
    return (key, s) :: ss

end

end SchemaObject

namespace Schema

/-- Reads a schema. -/
def read? (source : Source) : Option Schema :=
  (SchemaObject.read? source).map ofObject

/-- The schema of a JSON value. -/
def ofJson? (j : Json) : Option Schema := read? (.ofJson j)

end Schema
end ApiResolution
