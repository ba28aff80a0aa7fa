import ApiResolution.Property.OfSchema
import ApiResolution.Schema.Writer

/-!
Models made for unions. A union whose branches all refer to schemas of objects becomes a model of
its own that lists its alternatives; a property at whose end such a union stands is retyped to it.
-/

namespace ApiResolution

/-- The two kinds of unions. -/
inductive UnionKind where
  | oneOf
  | anyOf
deriving DecidableEq, Repr

/-- The word at the front of the names of models made for unions. -/
def UnionKind.word : UnionKind → String
  | oneOf => "OneOf"
  | anyOf => "AnyOf"

namespace Schema

/-- The union that a combination is: its `oneOf` branches, else its `anyOf` branches. -/
def union? (s : Schema) : Option (UnionKind × List Schema) :=
  match s.shape with
  | .composed _ (o :: os) _ _ _ => some (.oneOf, o :: os)
  | .composed _ [] (n :: ns) _ _ => some (.anyOf, n :: ns)
  | _ => none

/-- The schema at the end of items of arrays and values of maps. -/
def innermost : Schema → Schema
  | ⟨_, .array (some items)⟩ => innermost items
  | ⟨_, .map (some value) _ _⟩ => innermost value
  | s => s

end Schema

namespace Model

/-- The name that a branch of a union refers to, if it refers to a schema of objects. -/
def alternative? (c : Context) (branch : Schema) : Option String := do
  let name ← c.refName? branch
  let schema ← c.schema? name
  let target := c.dereference schema
  if target.isObject || target.isComposed then some name else none

/-- The model of a union with the given branches. -/
def ofUnion? (c : Context) (name : String) (branches : List Schema) : Option Model := do
  let interfaces ← branches.mapM (alternative? c)
  return reindex
    { name
      className := c.conventions.modelName name
      isComposed := true
      alternatives := interfaces.map c.conventions.modelName
      interfaces }

/-- The model of the union that a named schema is. -/
def ofSchemaUnion? (c : Context) (name : String) (s : Schema) : Option Model := do
  let (kind, branches) ← s.union?
  ofUnion? c (Identifier.ofUnion kind.word name none) branches

/-- The model of the union at the end of a member's schema; a union that declares its own model
name gets none. -/
def ofMemberUnion? (c : Context) (model : String) (member : Option String) (s : Schema) :
    Option Model :=
  let innermost := s.innermost
  if (innermost.extensionText? "x-model-name").isSome then none
  else do
    let (kind, branches) ← innermost.union?
    ofUnion? c (Identifier.ofUnion kind.word model member) branches

end Model

namespace Property

/-- Retypes a property to the model of the union at its end, if there is one. -/
def toUnion (v : Conventions) (p : Property) : Option Model → Property
  | some union => { retype v union.className p with composedModel := some union.name }
  | none => p

end Property
end ApiResolution
