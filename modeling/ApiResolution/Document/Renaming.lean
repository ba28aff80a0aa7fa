import ApiResolution.Document
import ApiResolution.Parameter.Names
import ApiResolution.Reference
import ApiResolution.Schema.References
import ApiResolution.Text.Case

/-!
Schemas whose names differ only by case. The first one of a name keeps it, and each later one gets
the next name that no schema has in any case; references to it follow.
-/

namespace ApiResolution
namespace Document

/-- The new names under the old ones: `taken` are the lower-case names that are in use, `kept` those
of the schemas before. -/
def renamesFrom (taken kept : List String) : List String → Entries String
  | [] => []
  | name :: rest =>
    let lower := Text.toLower name
    if kept.contains lower then
      let free := Identifier.freeFrom (fun n => taken.contains (Text.toLower n)) (taken.length + 1)
        (Identifier.nextName name)
      let added := Text.toLower free
      (name, free) :: renamesFrom (added :: taken) (added :: kept) rest
    else renamesFrom taken (lower :: kept) rest

/-- The new names of schemas under their old ones. -/
def renames (d : Document) : Entries String :=
  let names := Entries.keys d.components.schemas
  renamesFrom (names.map Text.toLower) [] names

/-- The target of a reference under new names. -/
def renameTarget (self : Option String) (names : Entries String) (target : String) : String :=
  match (Reference.componentName? target self "schemas").bind (Entries.lookup? · names) with
  | some name => Reference.ofSchemaName name
  | none => target

/-- Changes what is written in place and leaves references. -/
def mapInline {α : Type} (f : α → α) : OrReference α → OrReference α
  | .inline value => .inline (f value)
  | .reference target => .reference target

/-- Changes the schema of a media type. -/
def mapMedia (f : Schema → Schema) (m : MediaTypeObject) : MediaTypeObject :=
  { m with schema := m.schema.map f }

/-- Changes the schemas of a parameter. -/
def mapParameter (f : Schema → Schema) (p : ParameterObject) : ParameterObject :=
  { p with schema := p.schema.map f, content := p.content.map (Entries.mapValues (mapMedia f)) }

/-- Changes the schemas of a request body. -/
def mapBody (f : Schema → Schema) (b : RequestBodyObject) : RequestBodyObject :=
  { b with content := Entries.mapValues (mapMedia f) b.content }

/-- Changes the schema of a header. -/
def mapHeader (f : Schema → Schema) (h : HeaderObject) : HeaderObject :=
  { h with schema := h.schema.map f }

/-- Changes the schemas of a response. -/
def mapResponse (f : Schema → Schema) (r : ResponseObject) : ResponseObject :=
  { r with
    headers := Entries.mapValues (mapInline (mapHeader f)) r.headers
    content := Entries.mapValues (mapMedia f) r.content }

/-- Changes the schemas of an operation. -/
def mapOperation (f : Schema → Schema) (o : OperationObject) : OperationObject :=
  { o with
    parameters := o.parameters.map (mapInline (mapParameter f))
    requestBody := o.requestBody.map (mapInline (mapBody f))
    responses := Entries.mapValues (mapInline (mapResponse f)) o.responses }

/-- Changes the schemas below a path. -/
def mapPath (f : Schema → Schema) (p : PathItem) : PathItem where
  get := p.get.map (mapOperation f)
  put := p.put.map (mapOperation f)
  post := p.post.map (mapOperation f)
  delete := p.delete.map (mapOperation f)
  options := p.options.map (mapOperation f)
  head := p.head.map (mapOperation f)
  patch := p.patch.map (mapOperation f)
  trace := p.trace.map (mapOperation f)
  parameters := p.parameters.map (mapInline (mapParameter f))

/-- Changes the schemas of components. -/
def mapComponents (f : Schema → Schema) (c : Components) : Components :=
  { c with
    schemas := Entries.mapValues f c.schemas
    parameters := Entries.mapValues (mapInline (mapParameter f)) c.parameters
    requestBodies := Entries.mapValues (mapInline (mapBody f)) c.requestBodies
    responses := Entries.mapValues (mapInline (mapResponse f)) c.responses
    headers := Entries.mapValues (mapInline (mapHeader f)) c.headers }

/-- Changes every schema of a document. -/
def mapSchemas (f : Schema → Schema) (d : Document) : Document :=
  { d with
    paths := Entries.mapValues (mapPath f) d.paths
    components := mapComponents f d.components }

/-- Gives the schemas their new names. -/
def renameSchemas (names : Entries String) (schemas : Entries Schema) : Entries Schema :=
  Entries.ofList (schemas.map fun e => ((Entries.lookup? e.1 names).getD e.1, e.2))

/-- The document under the given new names. -/
def renameWith (names : Entries String) (d : Document) : Document :=
  let mapped := d.mapSchemas (Schema.mapRefs (renameTarget d.self names))
  { mapped with
    components := { mapped.components with
      schemas := renameSchemas names mapped.components.schemas } }

/-- The document in which no two names of schemas differ only by case. -/
def withDistinctNames (d : Document) : Document := d.renameWith d.renames

end Document
end ApiResolution
