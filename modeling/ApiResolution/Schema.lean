import ApiResolution.Json

/-!
Schemas: a shape, which says how values are built, and annotations, which constrain and describe
them. Every schema node has exactly one shape.
-/

namespace ApiResolution

/-- Whether a member name marks an extension. -/
def isExtensionName (name : String) : Bool :=
  match name.toList with
  | 'x' :: '-' :: _ => true
  | _ => false

/-- The scalar types. -/
inductive ScalarType where
  | string
  | integer
  | number
  | boolean
  | file
deriving DecidableEq, Repr

/-- The type keyword of a scalar type. -/
def ScalarType.keyword : ScalarType → String
  | string => "string"
  | integer => "integer"
  | number => "number"
  | boolean => "boolean"
  | file => "file"

/-- How the values of a schema are built from values of other schemas. -/
inductive Shape (α : Type) where
  /-- A scalar. -/
  | scalar (type : ScalarType)
  /-- An array; the items may be left open. -/
  | array (items : Option α)
  /-- An object with free names; without a value schema the values are open too. -/
  | map (value : Option α) (properties : List (String × α)) (required : List String)
  /-- An object with named properties. -/
  | object (properties : List (String × α)) (required : List String)
  /-- A combination of branches, with properties beside them. -/
  | composed (allOf oneOf anyOf : List α) (properties : List (String × α))
      (required : List String)
  /-- A reference, as written. -/
  | reference (target : String)
  /-- No constraint on the structure. -/
  | any
deriving Repr

namespace Shape

variable {α : Type}

/-- The properties of an object, a map or a combination. -/
def properties? : Shape α → Option (List (String × α))
  | map _ ps _ => some ps
  | object ps _ => some ps
  | composed _ _ _ ps _ => some ps
  | _ => none

/-- The required names of an object, a map or a combination. -/
def required : Shape α → List String
  | map _ _ rs => rs
  | object _ rs => rs
  | composed _ _ _ _ rs => rs
  | _ => []

end Shape

/-- Which property tells the schemas of a union apart, and which values stand for which schema. -/
structure Discriminator where
  propertyName : String
  mapping : Entries String
deriving DecidableEq, Repr

/-- What a schema says beside its shape. -/
structure Annotations where
  title : Option String := none
  description : Option String := none
  format : Option String := none
  enumValues : List Json := []
  defaultValue : Option Json := none
  exampleValue : Option Json := none
  nullable : Bool := false
  readOnly : Bool := false
  writeOnly : Bool := false
  minimum : Option Number := none
  maximum : Option Number := none
  exclusiveMinimum : Bool := false
  exclusiveMaximum : Bool := false
  multipleOf : Option Number := none
  minLength : Option Nat := none
  maxLength : Option Nat := none
  pattern : Option String := none
  minItems : Option Nat := none
  maxItems : Option Nat := none
  uniqueItems : Bool := false
  discriminator : Option Discriminator := none
  extensions : Entries Json := []
deriving Repr

/-- One schema node. -/
structure Schema extends Annotations where
  shape : Shape Schema
deriving Repr

namespace Schema

/-- The schema of a shape without annotations. -/
def ofShape (shape : Shape Schema) : Schema := { shape }

/-- A schema that is a reference. -/
def reference (target : String) : Schema := ofShape (.reference target)

/-- A scalar schema. -/
def scalar (type : ScalarType) (format : Option String := none) : Schema :=
  { shape := .scalar type, format }

/-- An object schema without properties. -/
def emptyObject : Schema := ofShape (.object [] [])

instance : Inhabited Schema := ⟨ofShape .any⟩

/-- The target of a reference. -/
def refTarget? (s : Schema) : Option String :=
  match s.shape with
  | .reference t => some t
  | _ => none

/-- Whether the schema is an array. -/
def isArray (s : Schema) : Bool :=
  match s.shape with
  | .array _ => true
  | _ => false

/-- Whether the schema is a map. -/
def isMap (s : Schema) : Bool :=
  match s.shape with
  | .map .. => true
  | _ => false

/-- Whether the schema is a combination of branches. -/
def isComposed (s : Schema) : Bool :=
  match s.shape with
  | .composed .. => true
  | _ => false

/-- Whether the schema is an object. -/
def isObject (s : Schema) : Bool :=
  match s.shape with
  | .object .. => true
  | _ => false

/-- Whether the schema lists its values. -/
def isEnum (s : Schema) : Bool := !s.enumValues.isEmpty

/-- The properties of an object, a map or a combination. -/
def properties? (s : Schema) : Option (Entries Schema) := s.shape.properties?

/-- The required names of an object, a map or a combination. -/
def required (s : Schema) : List String := s.shape.required

/-- The text of an extension. -/
def extensionText? (key : String) (s : Schema) : Option String :=
  (Entries.lookup? key s.extensions).bind Json.string?

end Schema
end ApiResolution
