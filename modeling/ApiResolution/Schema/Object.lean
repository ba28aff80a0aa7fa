import ApiResolution.Schema

/-!
Schema objects hold the keywords of a schema as they are written, where one constraint may have
several spellings. `Schema.ofObject` finds the one shape and settles the spellings; `ofSchema` writes
a schema with the plainest of them.
-/

namespace ApiResolution

/-- The `type` keyword: one type, or a list of types. -/
inductive TypeKeyword where
  | single (name : String)
  | several (names : List String)
deriving DecidableEq, Repr

/-- The `additionalProperties` keyword: whether free names are allowed, or the schema of their
values. -/
inductive AdditionalKeyword (α : Type) where
  | flag (allowed : Bool)
  | schema (value : α)
deriving Repr

/-- The keywords that hold no further schema. -/
structure PlainKeywords where
  reference : Option String := none
  typeKeyword : Option TypeKeyword := none
  format : Option String := none
  title : Option String := none
  description : Option String := none
  enumValues : Option (List Json) := none
  constValue : Option Json := none
  defaultValue : Option Json := none
  exampleValue : Option Json := none
  nullable : Option Bool := none
  readOnly : Option Bool := none
  writeOnly : Option Bool := none
  minimum : Option Number := none
  maximum : Option Number := none
  exclusiveMinimum : Option Json := none
  exclusiveMaximum : Option Json := none
  multipleOf : Option Number := none
  minLength : Option Nat := none
  maxLength : Option Nat := none
  pattern : Option String := none
  minItems : Option Nat := none
  maxItems : Option Nat := none
  uniqueItems : Option Bool := none
  required : Option (List String) := none
  discriminator : Option Discriminator := none
  others : Entries Json := []
deriving Repr

/-- A schema as it is written. -/
structure SchemaObject extends PlainKeywords where
  items : Option SchemaObject := none
  properties : Option (List (String × SchemaObject)) := none
  additional : Option (AdditionalKeyword SchemaObject) := none
  allOf : Option (List SchemaObject) := none
  oneOf : Option (List SchemaObject) := none
  anyOf : Option (List SchemaObject) := none
deriving Repr

namespace PlainKeywords

/-- The first type that is not null. -/
def typeName? (k : PlainKeywords) : Option String :=
  match k.typeKeyword with
  | none => none
  | some (.single t) => some t
  | some (.several ts) => ts.find? (· != "null")

/-- Whether the list of types has null in it. -/
def nullInType (k : PlainKeywords) : Bool :=
  match k.typeKeyword with
  | some (.several ts) => ts.any (· == "null")
  | _ => false

/-- A bound and its exclusiveness. A flag applies to the inclusive bound; a number is a bound of its
own, which takes the place of the inclusive one. -/
def settleBound (bound : Option Number) : Option Json → Option Number × Bool
  | some (.bool flag) => (bound, flag)
  | some (.number n) => (some n, true)
  | _ => (bound, false)

/-- The annotations that the keywords express. A constant is a list of one value. -/
def annotations (k : PlainKeywords) : Annotations where
  title := k.title
  description := k.description
  format := k.format
  enumValues :=
    match k.enumValues.getD [] with
    | [] => k.constValue.toList
    | values => values
  defaultValue := k.defaultValue
  exampleValue := k.exampleValue
  nullable := k.nullable.getD false || k.nullInType
  readOnly := k.readOnly.getD false
  writeOnly := k.writeOnly.getD false
  minimum := (settleBound k.minimum k.exclusiveMinimum).1
  maximum := (settleBound k.maximum k.exclusiveMaximum).1
  exclusiveMinimum := (settleBound k.minimum k.exclusiveMinimum).2
  exclusiveMaximum := (settleBound k.maximum k.exclusiveMaximum).2
  multipleOf := k.multipleOf
  minLength := k.minLength
  maxLength := k.maxLength
  pattern := k.pattern
  minItems := k.minItems
  maxItems := k.maxItems
  uniqueItems := k.uniqueItems.getD false
  discriminator := k.discriminator
  extensions := k.others.filter fun e => isExtensionName e.1

end PlainKeywords

/-- The shape of an object with free names or without, for the type `object` or no type at all. -/
def Shape.ofUntyped {α : Type} (typed : Bool) (additional : Option (AdditionalKeyword α))
    (items : Option α) (properties : List (String × α)) (required : List String) : Shape α :=
  match additional with
  | some (.flag true) => .map none properties required
  | some (.schema value) => .map (some value) properties required
  | _ =>
    if typed || !properties.isEmpty then .object properties required
    else if items.isSome then .array items
    else .any

/-- The shape that a type name, branches and members make. A reference comes before everything else
and branches before the type; an unknown type leaves the structure open. -/
def Shape.settle {α : Type} (reference : Option String) (typeName : Option String)
    (allOf oneOf anyOf : List α) (items : Option α) (properties : List (String × α))
    (required : List String) (additional : Option (AdditionalKeyword α)) : Shape α :=
  match reference with
  | some target => .reference target
  | none =>
    if !allOf.isEmpty || !oneOf.isEmpty || !anyOf.isEmpty then
      .composed allOf oneOf anyOf properties required
    else
      match typeName with
      | some "array" => .array items
      | some "string" => .scalar .string
      | some "integer" => .scalar .integer
      | some "number" => .scalar .number
      | some "boolean" => .scalar .boolean
      | some "file" => .scalar .file
      | some "object" => .ofUntyped true additional items properties required
      | some _ => .any
      | none => .ofUntyped false additional items properties required

namespace Schema

mutual

/-- The schema that a schema object expresses. -/
def ofObject : SchemaObject → Schema
  | ⟨k, items, properties, additional, allOf, oneOf, anyOf⟩ =>
    { toAnnotations := k.annotations
      shape := .settle k.reference k.typeName? (ofBranches allOf) (ofBranches oneOf)
        (ofBranches anyOf) (ofItems items) (ofMembers properties) (k.required.getD [])
        (ofAdditional additional) }

/-- The schema of items. -/
def ofItems : Option SchemaObject → Option Schema
  | none => none
  | some o => some (ofObject o)

/-- The schemas of optional branches. -/
def ofBranches : Option (List SchemaObject) → List Schema
  | none => []
  | some os => ofObjects os

/-- The schemas of branches. -/
def ofObjects : List SchemaObject → List Schema
  | [] => []
  | o :: os => ofObject o :: ofObjects os

/-- The schemas of optional properties. -/
def ofMembers : Option (List (String × SchemaObject)) → List (String × Schema)
  | none => []
  | some ps => ofProperties ps

/-- The schemas of properties. -/
def ofProperties : List (String × SchemaObject) → List (String × Schema)
  | [] => []
  | (k, o) :: ps => (k, ofObject o) :: ofProperties ps

/-- The schema of free values. -/
def ofAdditional : Option (AdditionalKeyword SchemaObject) → Option (AdditionalKeyword Schema)
  | none => none
  | some (.flag b) => some (.flag b)
  | some (.schema o) => some (.schema (ofObject o))

end

end Schema

/-- A list, or nothing when it is empty. -/
def nonemptyList? {α : Type} (xs : List α) : Option (List α) :=
  if xs.isEmpty then none else some xs

/-- A flag, written only when it is set. -/
def setFlag? (b : Bool) : Option Bool :=
  if b then some true else none

/-- The keywords that write annotations. -/
def Annotations.keywords (a : Annotations) : PlainKeywords where
  format := a.format
  title := a.title
  description := a.description
  enumValues := nonemptyList? a.enumValues
  defaultValue := a.defaultValue
  exampleValue := a.exampleValue
  nullable := setFlag? a.nullable
  readOnly := setFlag? a.readOnly
  writeOnly := setFlag? a.writeOnly
  minimum := a.minimum
  maximum := a.maximum
  exclusiveMinimum := if a.exclusiveMinimum then some (.bool true) else none
  exclusiveMaximum := if a.exclusiveMaximum then some (.bool true) else none
  multipleOf := a.multipleOf
  minLength := a.minLength
  maxLength := a.maxLength
  pattern := a.pattern
  minItems := a.minItems
  maxItems := a.maxItems
  uniqueItems := setFlag? a.uniqueItems
  discriminator := a.discriminator
  others := a.extensions

namespace SchemaObject

mutual

/-- The schema object that writes a schema. -/
def ofSchema : Schema → SchemaObject
  | ⟨a, shape⟩ => ofShape a.keywords shape

/-- Adds the keywords of a shape. -/
def ofShape (k : PlainKeywords) : Shape Schema → SchemaObject
  | .reference target => { k with reference := some target }
  | .scalar t => { k with typeKeyword := some (.single t.keyword) }
  | .array none => { k with typeKeyword := some (.single "array") }
  | .array (some s) =>
    { k with typeKeyword := some (.single "array"), items := some (ofSchema s) }
  | .map none ps rs =>
    { k with
      typeKeyword := some (.single "object"), required := nonemptyList? rs
      additional := some (.flag true), properties := nonemptyList? (ofProperties ps) }
  | .map (some v) ps rs =>
    { k with
      typeKeyword := some (.single "object"), required := nonemptyList? rs
      additional := some (.schema (ofSchema v)), properties := nonemptyList? (ofProperties ps) }
  | .object ps rs =>
    { k with
      typeKeyword := some (.single "object"), required := nonemptyList? rs
      properties := nonemptyList? (ofProperties ps) }
  | .composed a o n ps rs =>
    { k with
      required := nonemptyList? rs, allOf := nonemptyList? (ofSchemas a)
      oneOf := nonemptyList? (ofSchemas o), anyOf := nonemptyList? (ofSchemas n)
      properties := nonemptyList? (ofProperties ps) }
  | .any => { k with }

/-- The schema objects that write branches. -/
def ofSchemas : List Schema → List SchemaObject
  | [] => []
  | s :: ss => ofSchema s :: ofSchemas ss

/-- The schema objects that write properties. -/
def ofProperties : List (String × Schema) → List (String × SchemaObject)
  | [] => []
  | (k, s) :: ps => (k, ofSchema s) :: ofProperties ps

end

end SchemaObject
end ApiResolution
