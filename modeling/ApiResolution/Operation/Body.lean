import ApiResolution.Parameter.OfDeclaration
import ApiResolution.Schema.Equality

/-!
The parameters of a request body. A form media type has a content with a parameter for each property
of its schema; every other media type has a content with one body parameter, and media types with
equal schemas share it.
-/

namespace ApiResolution

namespace MediaType

/-- The media type of encoded forms. -/
def formUrlEncoded : String := "application/x-www-form-urlencoded"

/-- The media type of forms in parts. -/
def multipartFormData : String := "multipart/form-data"

/-- Whether a media type is in parts; the case of ASCII letters does not count. -/
def isMultipart (contentType : String) : Bool := Text.toLowerAscii contentType == multipartFormData

/-- Whether a media type is a form; the case of ASCII letters does not count. -/
def isForm (contentType : String) : Bool :=
  Text.toLowerAscii contentType == formUrlEncoded || isMultipart contentType

end MediaType

namespace Parameter

/-- The declaration of a form parameter for a property. -/
def formDeclaration (required : List String) (name : String) (s : Schema) : ParameterObject where
  name
  location := "formData"
  description := s.description
  required := required.contains name
  schema := some s

/-- The parameters of a form with the given schema. -/
def ofForm (c : Context) (contentType : String) (schema : Option Schema) :
    Noted (List (Using Parameter)) :=
  match schema.map c.dereference with
  | none => pure []
  | some s => do
    let built ← Noted.mapList (fun e => ofDeclaration c (formDeclaration s.required e.1 e.2))
      (s.properties?.getD [])
    return built.map fun u =>
      { u with value := { u.value with isMultipart := MediaType.isMultipart contentType } }

/-- What a body says of its parameter apart from the type. -/
def bodyDeclared (v : Conventions) (body : RequestBodyObject) (name contentType : String)
    (media : MediaTypeObject) : Parameter where
  paramName := v.paramName name
  baseName := name
  description := body.description
  location := some .body
  required := body.required
  contentType := some contentType
  exampleText := media.firstExample?.map plainText
  extensions := extensionEntries body.others

/-- The name of the parameter of a body. -/
def bodyName (body : RequestBodyObject) : String :=
  ((Entries.lookup? "x-codegen-request-body-name" body.others).map plainText).getD "body"

/-- The model that a body schema refers to; a name that is only another word for a type is none. -/
def bodyModel? (c : Context) (s : Schema) : Option String :=
  (c.refName? s).filter fun name => !c.isAlias name

/-- Gives a body parameter the type of a schema. -/
def withBodyType (c : Context) (property : Property) (s : Schema) (p : Parameter) : Parameter :=
  let typed := withType property { p with dataFormat := s.format, nullable := s.nullable }
  match bodyModel? c s with
  | some name =>
    { typed with isModel := true, baseType := some (c.conventions.modelName name) }
  | none => typed

/-- Makes a body parameter an object. -/
def withObjectType (v : Conventions) (p : Parameter) : Parameter :=
  let object := v.typeName .object
  { p with dataType := object, baseType := some object, flags := TypeTag.object.flags }

/-- The parameter of a body for one media type. Without a schema it is an object, which is noted. -/
def ofBody (c : Context) (body : RequestBodyObject) (contentType : String)
    (media : MediaTypeObject) : Noted (Using Parameter) := do
  let v := c.conventions
  let name := bodyName body
  let declared := bodyDeclared v body name contentType media
  match media.schema with
  | some s => do
    let built ← Property.ofSchema c name s
    let property := Property.nameIfEnum v built
    return ⟨v.finishParameter (withBodyType c property s declared), property.imports v⟩
  | none => do
    Noted.diagnose .missingSchema contentType
      ("Request body '" ++ contentType ++ "' has no schema; using object")
    return ⟨v.finishParameter (withObjectType v declared), []⟩

end Parameter

/-- A content with the schema of its body, if it is no form. -/
structure BodyContent where
  content : Content
  schema : Option Schema := none

/-- What a request body contributes to an operation. -/
structure Request where
  bodies : List BodyContent := []
  /-- The parameter of the first content that is no form. -/
  bodyParam : Option Parameter := none
  formParams : List Parameter := []
  /-- The media types in order. -/
  consumes : List String := []
  imports : List String := []

namespace Request

/-- The contents in order. -/
def contents (r : Request) : List Content := r.bodies.map (·.content)

/-- Adds a media type to the first content that is no form and has an equal schema. -/
def share? (contentType : String) (schema : Option Schema) :
    List BodyContent → Option (List BodyContent)
  | [] => none
  | b :: bs =>
    if !b.content.isForm && sameOption Schema.same b.schema schema then
      let content := { b.content with contentTypes := b.content.contentTypes ++ [contentType] }
      some ({ b with content } :: bs)
    else (share? contentType schema bs).map (b :: ·)

/-- Adds the parameters of a form; a form without parameters has no content. -/
def addForm (r : Request) (contentType : String) (ps : List (Using Parameter)) : Request :=
  let parameters := ps.map (·.value)
  if parameters.isEmpty then r
  else
    { r with
      bodies := r.bodies ++ [⟨{ contentTypes := [contentType], isForm := true, parameters }, none⟩]
      formParams := r.formParams ++ parameters
      imports := insertTexts (ps.flatMap (·.imports)) r.imports }

/-- Adds the parameter of a body. -/
def addBody (r : Request) (contentType : String) (schema : Option Schema) (p : Using Parameter) :
    Request :=
  { r with
    bodies := r.bodies ++ [⟨{ contentTypes := [contentType], parameters := [p.value] }, schema⟩]
    bodyParam := r.bodyParam.or (some p.value)
    imports := insertTexts p.imports r.imports }

/-- Adds a media type. -/
def addMedia (c : Context) (body : RequestBodyObject) (r : Request) (contentType : String)
    (media : MediaTypeObject) : Noted Request :=
  let r := { r with consumes := r.consumes ++ [contentType] }
  if MediaType.isForm contentType then do
    let ps ← Parameter.ofForm c contentType media.schema
    return r.addForm contentType ps
  else
    let schema := media.schema.map c.dereference
    match share? contentType schema r.bodies with
    | some bodies => pure { r with bodies }
    | none => do
      let p ← Parameter.ofBody c body contentType media
      return r.addBody contentType schema p

/-- Adds media types in order. -/
def addAll (c : Context) (body : RequestBodyObject) : List (String × MediaTypeObject) → Request →
    Noted Request
  | [], r => pure r
  | (contentType, media) :: rest, r => do
    let next ← r.addMedia c body contentType media
    addAll c body rest next

/-- The contribution of a request body. -/
def ofBody (c : Context) (body : RequestBodyObject) : Noted Request :=
  addAll c body body.content {}

end Request
end ApiResolution
