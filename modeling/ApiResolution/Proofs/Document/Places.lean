import ApiResolution.Document.Renaming
import ApiResolution.Model.Union
import ApiResolution.Operation.Buckets
import ApiResolution.Proofs.Schema.Places

/-!
Places of schemas in a document: the component schemas, and the schemas of parameters, bodies,
responses and headers, be they components or written in a path or an operation; each place goes on
inside the schema. `schemaAt?_mapSchemas` says that changing the schemas of a document changes the
schema at every place in the same way.
-/

namespace ApiResolution

/-- The part, if it is written in place. -/
def OrReference.inline? {α : Type} : OrReference α → Option α
  | .inline value => some value
  | .reference _ => none

/-- The schema of the media type at an index. -/
def mediaSchema? (content : Entries MediaTypeObject) (i : Nat) : Option Schema :=
  content[i]?.bind (·.2.schema)

/-- Where a schema stands in a parameter. -/
inductive ParameterPlace where
  | schema
  | media (index : Nat)
deriving DecidableEq, Repr

/-- Where a schema stands in a response. -/
inductive ResponsePlace where
  | header (index : Nat)
  | media (index : Nat)
deriving DecidableEq, Repr

/-- Where a schema stands in an operation. -/
inductive OperationPlace where
  | parameter (index : Nat) (place : ParameterPlace)
  | body (media : Nat)
  | response (index : Nat) (place : ResponsePlace)
deriving DecidableEq, Repr

/-- Where a schema stands below a path. -/
inductive PathPlace where
  | parameter (index : Nat) (place : ParameterPlace)
  | operation (method : HttpMethod) (place : OperationPlace)
deriving DecidableEq, Repr

/-- Where a schema stands in a document. -/
inductive SchemaRoot where
  | schema (index : Nat)
  | parameter (index : Nat) (place : ParameterPlace)
  | requestBody (index media : Nat)
  | response (index : Nat) (place : ResponsePlace)
  | header (index : Nat)
  | path (index : Nat) (place : PathPlace)
deriving DecidableEq, Repr

/-- A place in a document: the root of a schema and the steps from there. -/
structure SchemaPlace where
  root : SchemaRoot
  steps : List Schema.Step := []
deriving DecidableEq, Repr

/-- The schema at a place of a parameter. -/
def ParameterObject.schemaAt? (p : ParameterObject) : ParameterPlace → Option Schema
  | .schema => p.schema
  | .media i => p.content.bind (mediaSchema? · i)

/-- The schema at a place of a response. -/
def ResponseObject.schemaAt? (r : ResponseObject) : ResponsePlace → Option Schema
  | .header i => (r.headers[i]?.bind (·.2.inline?)).bind (·.schema)
  | .media i => mediaSchema? r.content i

/-- The schema at a place of an operation. -/
def OperationObject.schemaAt? (o : OperationObject) : OperationPlace → Option Schema
  | .parameter i place => (o.parameters[i]?.bind (·.inline?)).bind (·.schemaAt? place)
  | .body i => (o.requestBody.bind (·.inline?)).bind (mediaSchema? ·.content i)
  | .response i place => (o.responses[i]?.bind (·.2.inline?)).bind (·.schemaAt? place)

/-- The schema at a place below a path. -/
def PathItem.schemaAt? (p : PathItem) : PathPlace → Option Schema
  | .parameter i place => (p.parameters[i]?.bind (·.inline?)).bind (·.schemaAt? place)
  | .operation method place => (p.operation? method).bind (·.schemaAt? place)

namespace Document

/-- The schema at a root. -/
def rootSchema? (d : Document) : SchemaRoot → Option Schema
  | .schema i => d.components.schemas[i]?.map (·.2)
  | .parameter i place =>
    (d.components.parameters[i]?.bind (·.2.inline?)).bind (·.schemaAt? place)
  | .requestBody i media =>
    (d.components.requestBodies[i]?.bind (·.2.inline?)).bind (mediaSchema? ·.content media)
  | .response i place =>
    (d.components.responses[i]?.bind (·.2.inline?)).bind (·.schemaAt? place)
  | .header i => (d.components.headers[i]?.bind (·.2.inline?)).bind (·.schema)
  | .path i place => d.paths[i]?.bind (·.2.schemaAt? place)

/-- The schema at a place. -/
def schemaAt? (d : Document) (place : SchemaPlace) : Option Schema :=
  (d.rootSchema? place.root).bind (·.descend? place.steps)

/-- A schema stands somewhere in the document. -/
def Occurs (d : Document) (s : Schema) : Prop := ∃ place, d.schemaAt? place = some s

theorem occurs_of_root {d : Document} (root : SchemaRoot) {s : Schema}
    (h : d.rootSchema? root = some s) : d.Occurs s :=
  ⟨⟨root, []⟩, by rw [schemaAt?, h]; rfl⟩

theorem Occurs.child {d : Document} {s t : Schema} (hs : d.Occurs s) (step : Schema.Step)
    (h : s.child? step = some t) : d.Occurs t := by
  obtain ⟨⟨root, steps⟩, hs⟩ := hs
  refine ⟨⟨root, steps ++ [step]⟩, ?_⟩
  rw [schemaAt?] at hs ⊢
  obtain ⟨start, hstart, hs⟩ := Option.bind_eq_some_iff.mp hs
  dsimp only at hstart hs ⊢
  rw [hstart, Option.bind_some, Schema.descend?_append, hs, Option.bind_some, Schema.descend?, h]
  rfl

/-- What stands at the end of items and values of a schema stands in the document with it. -/
theorem Occurs.innermost {d : Document} {s : Schema} (hs : d.Occurs s) : d.Occurs s.innermost := by
  fun_induction Schema.innermost s with
  | case1 a items ih => exact ih (hs.child .items rfl)
  | case2 a value ps rs ih => exact ih (hs.child .value rfl)
  | case3 s _ _ => exact hs

theorem occurs_of_mem_schemas {d : Document} {e : String × Schema} (h : e ∈ d.components.schemas) :
    d.Occurs e.2 := by
  obtain ⟨i, hi⟩ := List.mem_iff_getElem?.mp h
  exact occurs_of_root (.schema i) (by rw [rootSchema?, hi]; rfl)

theorem Occurs.property {d : Document} {s : Schema} (hs : d.Occurs s) {ps : Entries Schema}
    (hps : s.properties? = some ps) {e : String × Schema} (he : e ∈ ps) : d.Occurs e.2 := by
  obtain ⟨i, hi⟩ := List.mem_iff_getElem?.mp he
  refine hs.child (.property i) ?_
  rw [Schema.child?, hps, Option.bind_some, hi]
  rfl

/-! ## Changed schemas -/

variable (f : Schema → Schema)

theorem getElem?_mapValues {α β : Type} (g : α → β) (es : Entries α) (i : Nat) :
    (Entries.mapValues g es)[i]? = es[i]?.map fun e => (e.1, g e.2) :=
  List.getElem?_map

theorem mediaSchema?_mapMedia (content : Entries MediaTypeObject) (i : Nat) :
    mediaSchema? (Entries.mapValues (mapMedia f) content) i = (mediaSchema? content i).map f := by
  rw [mediaSchema?, mediaSchema?, getElem?_mapValues]
  cases content[i]? <;> rfl

theorem schemaAt?_mapParameter (p : ParameterObject) (place : ParameterPlace) :
    (mapParameter f p).schemaAt? place = (p.schemaAt? place).map f := by
  cases place with
  | schema => rfl
  | media i =>
    rw [ParameterObject.schemaAt?, ParameterObject.schemaAt?, mapParameter]
    cases p.content with
    | none => rfl
    | some content => exact mediaSchema?_mapMedia f content i

theorem schema_mapHeader (h : HeaderObject) : (mapHeader f h).schema = h.schema.map f := rfl

/-- What is found in an inline part of a changed list is the changed schema. -/
theorem bind_inline?_getElem? {α : Type} {g : α → α} {find : α → Option Schema}
    (h : ∀ a, find (g a) = (find a).map f) (parts : List (OrReference α)) (i : Nat) :
    ((parts.map (mapInline g))[i]?.bind (·.inline?)).bind find =
      ((parts[i]?.bind (·.inline?)).bind find).map f := by
  rw [List.getElem?_map]
  cases parts[i]? with
  | none => rfl
  | some part => cases part <;> simp [mapInline, OrReference.inline?, h]

theorem bind_inline?_getElem?_mapValues {α : Type} {g : α → α} {find : α → Option Schema}
    (h : ∀ a, find (g a) = (find a).map f) (parts : Entries (OrReference α)) (i : Nat) :
    ((Entries.mapValues (mapInline g) parts)[i]?.bind (·.2.inline?)).bind find =
      ((parts[i]?.bind (·.2.inline?)).bind find).map f := by
  rw [getElem?_mapValues]
  cases parts[i]? with
  | none => rfl
  | some e =>
    rcases e with ⟨key, part⟩
    cases part <;> simp [mapInline, OrReference.inline?, h]

theorem schemaAt?_mapResponse (r : ResponseObject) (place : ResponsePlace) :
    (mapResponse f r).schemaAt? place = (r.schemaAt? place).map f := by
  cases place with
  | header i => exact bind_inline?_getElem?_mapValues f (schema_mapHeader f) r.headers i
  | media i => exact mediaSchema?_mapMedia f r.content i

theorem schemaAt?_mapOperation (o : OperationObject) (place : OperationPlace) :
    (mapOperation f o).schemaAt? place = (o.schemaAt? place).map f := by
  cases place with
  | parameter i place =>
    exact bind_inline?_getElem? f (schemaAt?_mapParameter f · place) o.parameters i
  | body media =>
    rw [OperationObject.schemaAt?, OperationObject.schemaAt?, mapOperation]
    cases o.requestBody with
    | none => rfl
    | some part =>
      cases part with
      | reference target => rfl
      | inline body => exact mediaSchema?_mapMedia f body.content media
  | response i place =>
    exact bind_inline?_getElem?_mapValues f (schemaAt?_mapResponse f · place) o.responses i

theorem operation?_mapPath (p : PathItem) (method : HttpMethod) :
    (mapPath f p).operation? method = (p.operation? method).map (mapOperation f) := by
  cases method <;> rfl

theorem schemaAt?_mapPath (p : PathItem) (place : PathPlace) :
    (mapPath f p).schemaAt? place = (p.schemaAt? place).map f := by
  cases place with
  | parameter i place =>
    exact bind_inline?_getElem? f (schemaAt?_mapParameter f · place) p.parameters i
  | operation method place =>
    rw [PathItem.schemaAt?, PathItem.schemaAt?, operation?_mapPath]
    cases p.operation? method with
    | none => rfl
    | some o => exact schemaAt?_mapOperation f o place

theorem rootSchema?_mapSchemas (d : Document) (root : SchemaRoot) :
    (d.mapSchemas f).rootSchema? root = (d.rootSchema? root).map f := by
  cases root with
  | schema i =>
    rw [rootSchema?, rootSchema?, mapSchemas, mapComponents, getElem?_mapValues, Option.map_map,
      Option.map_map]
    rfl
  | parameter i place =>
    exact bind_inline?_getElem?_mapValues f (schemaAt?_mapParameter f · place) _ i
  | requestBody i media =>
    exact bind_inline?_getElem?_mapValues f
      (fun body => mediaSchema?_mapMedia f body.content media) _ i
  | response i place =>
    exact bind_inline?_getElem?_mapValues f (schemaAt?_mapResponse f · place) _ i
  | header i => exact bind_inline?_getElem?_mapValues f (schema_mapHeader f) _ i
  | path i place =>
    rw [rootSchema?, rootSchema?, mapSchemas, getElem?_mapValues]
    cases d.paths[i]? with
    | none => rfl
    | some e => exact schemaAt?_mapPath f e.2 place

/-- Changing the targets in all schemas changes the schema at every place in the same way. -/
theorem schemaAt?_mapSchemas (target : String → String) (d : Document) (place : SchemaPlace) :
    (d.mapSchemas (Schema.mapRefs target)).schemaAt? place =
      (d.schemaAt? place).map (Schema.mapRefs target) := by
  rw [schemaAt?, schemaAt?, rootSchema?_mapSchemas, Option.bind_map, Option.map_bind]
  congr 1
  funext s
  exact Schema.descend?_mapRefs target s place.steps

end Document
end ApiResolution
