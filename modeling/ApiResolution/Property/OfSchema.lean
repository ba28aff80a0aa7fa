import ApiResolution.Context

/-!
The property of a schema. A container holds the property of its items, level by level down to
`maxDepth`; what lies deeper is cut off and becomes an object. The declared types of a chain follow
from its innermost property, so a chain can be retyped at its end and refreshed from there.
-/

namespace ApiResolution
namespace Property

/-- The depth below which containers are cut off. -/
def maxDepth : Nat := 64

/-- The declared type of a property without items that lists its values is its enum. -/
def refreshLeaf (v : Conventions) (p : Property) : Property :=
  if p.isEnum && !p.isContainer then
    let enum := v.enumName p
    { p with datatypeWithEnum := enum, enumName := some enum }
  else { p with datatypeWithEnum := p.datatype }

/-- Gives a property without items a type. -/
def setType (v : Conventions) (tag : TypeTag) (p : Property) : Property :=
  let baseType := v.typeName tag
  let primitive := v.isPrimitive baseType
  refreshLeaf v
    { p with
      flags := if primitive then { tag.flags with isPrimitiveType := true } else tag.flags
      baseType
      datatype := baseType
      complexType := if primitive then none else some baseType }

/-- The model that the items of a container refer to. -/
def itemComplexType (v : Conventions) (inner : Property) : Option String :=
  if inner.isContainer then inner.complexType
  else if v.isPrimitive inner.baseType then none
  else some inner.baseType

/-- Whether the items of a container are primitive in the end. -/
def itemPrimitive (v : Conventions) (inner : Property) : Bool :=
  if inner.isContainer then inner.flags.isPrimitiveType else v.isPrimitive inner.baseType

/-- The container around a property: its declared types follow from those of its items, and the
values of an enum at the end of the chain are its values. -/
def around (v : Conventions) (facts : PropertyFacts) (inner : Property) : Property :=
  let p : Property :=
    { facts with
      items := some inner
      complexType := itemComplexType v inner
      flags := { facts.flags with isPrimitiveType := itemPrimitive v inner }
      datatype := v.containerDeclaration facts.container inner.datatype }
  let leaf := inner.innermost
  if leaf.isEnum then
    let q : Property :=
      { p with
        isEnum := true
        enumValues := leaf.enumValues
        datatypeWithEnum := v.containerDeclaration facts.container inner.datatypeWithEnum }
    { q with enumName := some (v.enumName q) }
  else { p with datatypeWithEnum := p.datatype }

/-- Derives the declared types of a chain from its innermost property. -/
def refresh (v : Conventions) : Property → Property
  | ⟨facts, none⟩ => refreshLeaf v ⟨facts, none⟩
  | ⟨facts, some inner⟩ => around v facts (refresh v inner)

/-- The container of a kind around a property. -/
def wrap (v : Conventions) (container : ContainerKind) (facts : PropertyFacts) (inner : Property) :
    Property :=
  let tag := match container with
    | .map => TypeTag.map
    | _ => TypeTag.array
  refresh v ⟨{ facts with container, baseType := v.typeName tag }, some inner⟩

/-- Points the end of a chain at a model. -/
def retype (v : Conventions) (model : String) (p : Property) : Property :=
  refresh v (p.mapInnermost fun leaf =>
    let typed := setType v (.reference model) leaf
    { typed with flags := { typed.flags with isObject := true } })

/-- A bound as text; a bound on integers is an integer. -/
def boundText (integral : Bool) (n : Number) : String :=
  if integral then n.integralText else n.text

/-- The constraints of a schema of some type. -/
def validationOf (s : Schema) (tag : TypeTag) : Validation where
  minimum := s.minimum.map (boundText tag.isIntegral)
  maximum := s.maximum.map (boundText tag.isIntegral)
  exclusiveMinimum := s.exclusiveMinimum && s.minimum.isSome
  exclusiveMaximum := s.exclusiveMaximum && s.maximum.isSome
  minLength := s.minLength
  maxLength := s.maxLength
  pattern := s.pattern
  minItems := s.minItems
  maxItems := s.maxItems
  uniqueItems := s.uniqueItems
  multipleOf := s.multipleOf.map Number.text

/-- The constraints on the text behind a reference replace those beside it. -/
def inheritText (target : Option Schema) (v : Validation) : Validation :=
  match target with
  | some t =>
    match t.shape with
    | .scalar .string =>
      { v with pattern := t.pattern, minLength := t.minLength, maxLength := t.maxLength }
    | _ => v
  | none => v

/-- What a schema says of its property whatever its type. -/
def annotated (v : Conventions) (name : String) (s : Schema) : PropertyFacts where
  name := v.varName name
  baseName := name
  title := s.title
  description := s.description
  nullable := s.nullable
  readOnly := s.readOnly
  writeOnly := s.writeOnly
  defaultText := v.defaultText s
  exampleText := (v.exampleText s).filter (· != "null")
  extensions := s.extensions

/-- The type of a schema, seen through a name that is only another word for a type, and what is
known of its property before the items are. -/
def start (c : Context) (name : String) (s : Schema) : Noted (TypeTag × PropertyFacts) := do
  let written ← c.typeTag s
  let tag := (written.reference?.bind c.alias?).getD written
  let validation := inheritText (written.reference?.bind c.schema?) (validationOf s tag)
  return (tag, { annotated c.conventions name s with
    validation
    hasValidation := validation.isConstrained
    isEnum := s.isEnum
    enumValues := if s.isEnum then some { values := s.enumValues } else none })

/-- Whether a schema of some type is an object, followed through references. -/
def isObjectShaped (c : Context) (s : Schema) : TypeTag → Bool
  | .object => true
  | .reference _ =>
    let target := c.dereference s
    target.isObject || target.isComposed
  | _ => false

/-- The property of a schema that is no container. -/
def leaf (c : Context) (name : String) (s : Schema) : Noted Property := do
  let (tag, facts) ← start c name s
  let p := setType c.conventions tag ⟨facts, none⟩
  return { p with flags := { p.flags with isObject := isObjectShaped c s tag } }

/-- The property of a schema that lies too deep: an object. -/
def cutOff (c : Context) (name : String) (s : Schema) : Noted Property := do
  Noted.diagnose .recursionLimit name
    ("Container nesting deeper than " ++ toString maxDepth ++ " levels; using object")
  let p := setType c.conventions .object ⟨annotated c.conventions name s, none⟩
  return { p with flags := { p.flags with isObject := true } }

/-- The property, at some depth, of a schema that is no container. -/
def leafAt (c : Context) (depth : Nat) (name : String) (s : Schema) : Noted Property :=
  if maxDepth < depth then cutOff c name s else leaf c name s

/-- The name of the items of an array. -/
def itemName (s : Schema) (name : String) : String := (s.extensionText? "x-item-name").getD name

/-- The property of a schema at some depth. The items of an array that leaves them open are texts,
and the values of a map that leaves them open are objects. -/
def ofSchemaAt (c : Context) (depth : Nat) (name : String) : Schema → Noted Property
  | ⟨a, .array (some items)⟩ =>
    let s : Schema := ⟨a, .array (some items)⟩
    if maxDepth < depth then cutOff c name s
    else do
      let (_, facts) ← start c name s
      let inner ← ofSchemaAt c (depth + 1) (itemName s facts.name) items
      return wrap c.conventions .array facts inner
  | ⟨a, .array none⟩ =>
    let s : Schema := ⟨a, .array none⟩
    if maxDepth < depth then cutOff c name s
    else do
      let (_, facts) ← start c name s
      Noted.diagnose .missingArrayItems name
        ("Array property '" ++ name ++ "' has no items; assuming string")
      let inner ← leafAt c (depth + 1) (itemName s facts.name) (.scalar .string)
      return wrap c.conventions .array facts inner
  | ⟨a, .map (some value) ps rs⟩ =>
    let s : Schema := ⟨a, .map (some value) ps rs⟩
    if maxDepth < depth then cutOff c name s
    else do
      let (_, facts) ← start c name s
      let inner ← ofSchemaAt c (depth + 1) "inner" value
      return wrap c.conventions .map facts inner
  | ⟨a, .map none ps rs⟩ =>
    let s : Schema := ⟨a, .map none ps rs⟩
    if maxDepth < depth then cutOff c name s
    else do
      let (_, facts) ← start c name s
      let inner ← leafAt c (depth + 1) "inner" .emptyObject
      return wrap c.conventions .map facts inner
  | s => leafAt c depth name s

/-- The property of a schema. -/
def ofSchema (c : Context) (name : String) (s : Schema) : Noted Property := ofSchemaAt c 0 name s

end Property
end ApiResolution
