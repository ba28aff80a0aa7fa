import ApiResolution.Model.Members
import ApiResolution.Model.Union

/-!
The model of a named schema. Arrays and maps are described by a property of the whole. A combination
has its first reference for a parent and its further references for interfaces; which of their
members it lists itself depends on the composition mode. Unions met on the way become models beside
it.
-/

namespace ApiResolution

/-- How a combination takes over the members of its references. -/
inductive Composition where
  /-- All members are its own. -/
  | flat
  /-- The members of its first reference are its own; it has no parent. -/
  | mixins
  /-- The members of its first reference stay with its parent, and all members are listed beside its
  own ones. -/
  | inheritance
deriving DecidableEq, Repr

/-- The composition mode; inheritance goes before mixins. -/
def Options.composition (o : Options) : Composition :=
  if o.supportsInheritance then .inheritance else if o.supportsMixins then .mixins else .flat

namespace Model

/-- A model with the models of the unions in its schema. -/
structure WithUnions (α : Type) where
  value : α
  unions : List Model

/-- The member of a model for one declared property. -/
def member (c : Context) (model : String) (required : List String) (name : String) (s : Schema) :
    Noted (WithUnions Property) := do
  let p ← Property.ofSchema c name s
  let union := ofMemberUnion? c model (some name) s
  return ⟨({ p with required := required.contains name } : Property).toUnion c.conventions union,
    union.toList⟩

/-- The members of a model. -/
def members (c : Context) (model : String) (ms : Members) : Noted (WithUnions (List Property)) := do
  let built ← Noted.mapList (fun e => member c model ms.required e.1 e.2) ms.properties
  return ⟨built.map (·.value), (built.map (·.unions)).flatten⟩

/-- What a schema says of its model whatever its shape. -/
def annotated (c : Context) (name : String) (s : Schema) : Model where
  name
  className := c.conventions.modelName name
  title := s.title
  description := s.description
  schemaText := s.prettyText
  extensions := s.extensions
  isAlias := c.isAlias name
  discriminator := s.discriminator
  isNullable := s.nullable

/-- Describes an array or a map by a property of the whole. -/
def withContainer (c : Context) (s : Schema) (m : Model) : Noted (WithUnions Model) := do
  let built ← Property.ofSchema c m.name s
  let union := ofMemberUnion? c m.name none s
  let p := built.toUnion c.conventions union
  return ⟨{ m with
    containerProperty := some p
    containerInstantiation :=
      p.items.bind fun items => c.conventions.instantiation p.container items.datatype
    dataType := some p.datatype
    interfaces := m.interfaces ++ union.toList.map (·.name)
    imports := insertTexts p.complexType.toList m.imports }, union.toList⟩

/-- The names that branches refer to, in order. -/
def branchNames (c : Context) (branches : List Schema) : List String := branches.filterMap c.refName?

/-- The first branch's name, if it is a reference to a schema. -/
def parentOf? (c : Context) (allOf : List Schema) : Option String := do
  let name ← c.refName? (← allOf.head?)
  if (c.schema? name).isSome && c.options.composition != .mixins then some name else none

/-- The discriminator of the first branch that has one. -/
def branchDiscriminator? (c : Context) (allOf : List Schema) : Option Discriminator :=
  allOf.findSome? fun b => (c.dereference b).discriminator

/-- The members that a combination takes from branches for its own. What the first branch refers to
stays with the parent under inheritance, and what the others refer to is left out under mixins. -/
def ownFrom (c : Context) (self : String) : Bool → List Schema → Members → Members
  | _, [], ms => ms
  | first, b :: bs, ms =>
    let left : Composition := if first then .inheritance else .mixins
    ownFrom c self false bs <|
      match c.refName? b with
      | none => ms.addOwn b
      | some _ =>
        if c.options.composition = left then ms else Members.addReached c self b ms

/-- The members that a combination itself lists. -/
def ownMembers (c : Context) (self : String) (allOf : List Schema) (s : Schema) : Members :=
  (ownFrom c self true allOf {}).addOwn s

/-- The members that are reached through the references among branches. -/
def inheritedMembers (c : Context) (self : String) (allOf : List Schema) : Members :=
  (allOf.filter fun b => (c.refName? b).isSome).foldl
    (fun ms b => Members.addReached c self b ms) {}

/-- The union of a combination: with a discriminator of its own the references among its `oneOf`
branches are interfaces, and otherwise the union may become a model, which is an interface. -/
def unionInterfaces (c : Context) (name : String) (oneOf : List Schema) (s : Schema) :
    WithUnions (List String) :=
  if !oneOf.isEmpty && s.discriminator.isSome then ⟨branchNames c oneOf, []⟩
  else
    let union := (ofSchemaUnion? c name s).toList
    ⟨union.map (·.name), union⟩

/-- Describes a combination. -/
def withBranches (c : Context) (allOf oneOf : List Schema) (s : Schema) (m : Model) :
    Noted (WithUnions Model) := do
  let _ ← Noted.mapList c.typeTag (allOf.filter fun b => (c.refName? b).isSome)
  let parent := parentOf? c allOf
  let shared := branchNames c (allOf.drop 1)
  let union := unionInterfaces c m.name oneOf s
  let own := ownMembers c m.name allOf s
  let vars ← members c m.name own
  let allVars ←
    if c.options.composition = .inheritance then do
      let all ← members c m.name ((inheritedMembers c m.name allOf).add own.properties own.required)
      pure all.value
    else pure []
  return ⟨{ m with
    isComposed := true
    discriminator := m.discriminator.or (branchDiscriminator? c allOf)
    parent
    interfaces := m.interfaces ++ shared ++ union.value
    imports := insertTexts ((parent.toList ++ shared).map c.conventions.modelName) m.imports
    vars := vars.value
    allVars }, union.unions ++ vars.unions⟩

/-- Describes a schema that is neither a container nor a combination. -/
def withType (c : Context) (s : Schema) (m : Model) : Noted (WithUnions Model) := do
  let tag ← c.typeTag s
  let vars ← match s.properties? with
    | some ps => members c m.name ⟨ps, s.required⟩
    | none => pure ⟨[], []⟩
  return ⟨{ m with
    dataType := some (c.conventions.typeName tag)
    isEnum := s.isEnum
    enumValues := if s.isEnum then some { values := s.enumValues } else none
    vars := vars.value }, vars.unions⟩

/-- Describes a schema by its shape. -/
def described (c : Context) (s : Schema) (m : Model) : Noted (WithUnions Model) :=
  match s.shape with
  | .array _ => do
    let built ← withContainer c s { m with isArray := true }
    let item := built.value.containerProperty.bind (·.complexType)
    return ⟨{ built.value with arrayItemType := item }, built.unions⟩
  | .map _ ps rs => do
    let built ← withContainer c s { m with isMap := true }
    let vars ← members c m.name ⟨ps, rs⟩
    return ⟨{ built.value with vars := vars.value }, built.unions ++ vars.unions⟩
  | .composed allOf oneOf _ _ _ => withBranches c allOf oneOf s m
  | _ => withType c s m

/-- Finishes the members by convention, and derives the imports and the views. -/
def finish (v : Conventions) (m : Model) : Model :=
  let vars := m.vars.map (v.finishProperty { m with vars := [] })
  let used := (vars ++ m.allVars).filterMap (·.complexType)
  reindex { m with
    vars
    imports := (insertTexts used m.imports).filter (· != m.className) }

/-- The model of a named schema, with the models of the unions in it. -/
def ofSchema (c : Context) (name : String) (s : Schema) : Noted (WithUnions Model) := do
  let built ← described c s (annotated c name s)
  return ⟨finish c.conventions built.value, built.unions⟩

end Model
end ApiResolution
