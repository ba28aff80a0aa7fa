import ApiResolution.Property

/-!
Models describe named schemas. They link to each other by name, so a model map may have cycles of
links. The views of a model, lists of indices and summary flags, are derived from its members by
`reindex`.
-/

namespace ApiResolution

/-- A named schema, described for code generation. -/
structure Model where
  /-- The name of the schema. -/
  name : String
  /-- The type name in the target language. -/
  className : String
  title : Option String := none
  description : Option String := none
  /-- The members. -/
  vars : List Property := []
  /-- The members with the inherited ones. -/
  allVars : List Property := []
  requiredVars : List Nat := []
  optionalVars : List Nat := []
  readOnlyVars : List Nat := []
  readWriteVars : List Nat := []
  /-- The name of the parent. -/
  parent : Option String := none
  /-- The parent, if there is a model of its name. -/
  parentModel : Option String := none
  children : List String := []
  interfaces : List String := []
  /-- The interfaces that are models. -/
  interfaceModels : List String := []
  /-- The discriminator of the schema, or one adopted from a branch. -/
  discriminator : Option Discriminator := none
  isEnum : Bool := false
  enumValues : Option EnumValues := none
  isAlias : Bool := false
  isComposed : Bool := false
  isArray : Bool := false
  isMap : Bool := false
  /-- The property of an array or map as a whole. -/
  containerProperty : Option Property := none
  containerInstantiation : Option String := none
  arrayItemType : Option String := none
  dataType : Option String := none
  /-- The type names of the alternatives of a union. -/
  alternatives : List String := []
  hasVars : Bool := false
  hasEnums : Bool := false
  hasRequired : Bool := false
  hasOptional : Bool := false
  hasOnlyReadOnly : Bool := true
  isNullable : Bool := false
  imports : List String := []
  /-- The schema as indented JSON text. -/
  schemaText : String := ""
  extensions : Entries Json := []
deriving Repr

/-- Models under the names of their schemas. -/
abbrev ModelMap := Entries Model

namespace Model

/-- The indices, counted from `start`, of the properties that satisfy a test. -/
def indicesFrom (start : Nat) (test : Property → Bool) : List Property → List Nat
  | [] => []
  | p :: ps =>
    if test p then start :: indicesFrom (start + 1) test ps else indicesFrom (start + 1) test ps

/-- The indices of the properties that satisfy a test. -/
def indices (test : Property → Bool) (ps : List Property) : List Nat := indicesFrom 0 test ps

/-- Derives the views from the members. -/
def reindex (m : Model) : Model :=
  let vars := Property.markHasMore m.vars
  { m with
    vars
    allVars := Property.markHasMore m.allVars
    requiredVars := indices (·.required) vars
    optionalVars := indices (!·.required) vars
    readOnlyVars := indices (·.readOnly) vars
    readWriteVars := indices (!·.readOnly) vars
    hasVars := !vars.isEmpty
    hasEnums := vars.any (·.isEnum)
    hasRequired := vars.any (·.required)
    hasOptional := vars.any (!·.required)
    hasOnlyReadOnly := vars.all (·.readOnly) }

/-- The member with a name of documents. -/
def var? (m : Model) (baseName : String) : Option Property :=
  m.vars.find? fun v => v.baseName == baseName

/-- The members at some indices. -/
def varsAt (m : Model) (is : List Nat) : List Property := is.filterMap fun i => m.vars[i]?

/-- The required members. -/
def requiredProperties (m : Model) : List Property := m.varsAt m.requiredVars

/-- The optional members. -/
def optionalProperties (m : Model) : List Property := m.varsAt m.optionalVars

end Model

/-- Adds a text to a list of distinct texts. -/
def insertText (s : String) (ss : List String) : List String :=
  if ss.contains s then ss else ss ++ [s]

/-- Adds texts to a list of distinct texts, in order. -/
def insertTexts (more ss : List String) : List String :=
  more.foldl (fun acc s => insertText s acc) ss

end ApiResolution
