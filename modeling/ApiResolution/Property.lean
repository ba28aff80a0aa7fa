import ApiResolution.Schema

/-!
Properties describe the members of models and the items of containers. A property that is a
container holds the property of its items; the chain ends at the innermost one.
-/

namespace ApiResolution

/-- The kinds of containers. -/
inductive ContainerKind where
  | none
  | array
  | map
deriving DecidableEq, Repr

/-- The word that names a container kind. -/
def ContainerKind.keyword : ContainerKind → String
  | none => "none"
  | array => "array"
  | map => "map"

/-- What is known of a type without looking at its schema again. -/
structure TypeFlags where
  isString : Bool := false
  isNumeric : Bool := false
  isInteger : Bool := false
  isLong : Bool := false
  isNumber : Bool := false
  isFloat : Bool := false
  isDouble : Bool := false
  isBigDecimal : Bool := false
  isBoolean : Bool := false
  isDate : Bool := false
  isDateTime : Bool := false
  isUuid : Bool := false
  isEmail : Bool := false
  isBinary : Bool := false
  isByteArray : Bool := false
  isFile : Bool := false
  isObject : Bool := false
  isPrimitiveType : Bool := false
deriving DecidableEq, Repr

/-- The constraints on a value; bounds are texts of numbers. -/
structure Validation where
  minimum : Option String := none
  maximum : Option String := none
  exclusiveMinimum : Bool := false
  exclusiveMaximum : Bool := false
  minLength : Option Nat := none
  maxLength : Option Nat := none
  pattern : Option String := none
  minItems : Option Nat := none
  maxItems : Option Nat := none
  uniqueItems : Bool := false
  multipleOf : Option String := none
deriving DecidableEq, Repr

/-- Whether there is any constraint. -/
def Validation.isConstrained (v : Validation) : Bool :=
  v.minimum.isSome || v.maximum.isSome || v.minLength.isSome || v.maxLength.isSome ||
    v.pattern.isSome || v.minItems.isSome || v.maxItems.isSome || v.uniqueItems ||
    v.multipleOf.isSome

/-- A named member of an enum with its literal. -/
structure EnumMember where
  name : String
  literal : String
deriving DecidableEq, Repr

/-- The values of an enum, and its members once they are named. -/
structure EnumValues where
  values : List Json
  members : List EnumMember := []
deriving Repr

/-- What a property says apart from its items. -/
structure PropertyFacts where
  /-- The identifier in the target language. -/
  name : String
  /-- The name in documents. -/
  baseName : String
  /-- The type without its items. -/
  baseType : String := ""
  /-- The declared type. -/
  datatype : String := ""
  /-- The declared type, with the name of the enum where there is one. -/
  datatypeWithEnum : String := ""
  enumName : Option String := none
  /-- The model that the innermost item refers to. -/
  complexType : Option String := none
  container : ContainerKind := .none
  title : Option String := none
  description : Option String := none
  required : Bool := false
  nullable : Bool := false
  readOnly : Bool := false
  writeOnly : Bool := false
  /-- Whether the property or its innermost item lists its values. -/
  isEnum : Bool := false
  enumValues : Option EnumValues := none
  defaultText : Option String := none
  exampleText : Option String := none
  validation : Validation := {}
  hasValidation : Bool := false
  flags : TypeFlags := {}
  /-- The model made for the union that the innermost item is. -/
  composedModel : Option String := none
  /-- Whether another property follows in the list. -/
  hasMore : Bool := false
  extensions : Entries Json := []
deriving Repr

/-- A member of a model, or the items of a container. -/
structure Property extends PropertyFacts where
  items : Option Property := none
deriving Repr

namespace Property

/-- Whether the property is an array or a map. -/
def isContainer (p : Property) : Bool := p.container != .none

/-- The end of the chain of items. -/
def innermost : Property → Property
  | ⟨facts, none⟩ => ⟨facts, none⟩
  | ⟨_, some inner⟩ => innermost inner

/-- Changes the end of the chain of items. -/
def mapInnermost (f : Property → Property) : Property → Property
  | ⟨facts, none⟩ => f ⟨facts, none⟩
  | ⟨facts, some inner⟩ => ⟨facts, some (mapInnermost f inner)⟩

/-- The properties of the chain of items, from the outside in. -/
def levels : Property → List Property
  | ⟨facts, none⟩ => [⟨facts, none⟩]
  | ⟨facts, some inner⟩ => ⟨facts, some inner⟩ :: levels inner

/-- Marks every property of a list but the last one as followed by another. -/
def markHasMore : List Property → List Property
  | [] => []
  | [p] => [{ p with hasMore := false }]
  | p :: q :: ps => { p with hasMore := true } :: markHasMore (q :: ps)

end Property
end ApiResolution
