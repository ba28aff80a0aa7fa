import ApiResolution.Operation.Body
import ApiResolution.Operation.Responses
import ApiResolution.Operation.TestPath
import ApiResolution.Parameter.DeepObject
import ApiResolution.Parameter.Names

/-!
The operation of a declaration. Its parameters are those of the request body followed by the
declared ones, deep objects replaced by what they stand for; the lists by location are parts of that
list. Only an operation of whose name nothing is left fails.
-/

namespace ApiResolution

namespace SecurityRequirement

/-- The names of the schemes that requirements name, each once. -/
def schemeNames (requirements : List SecurityRequirement) : List String :=
  insertTexts (requirements.flatMap Entries.keys) []

end SecurityRequirement

namespace Operation

/-- The name that an operation declares: blank names do not count. -/
def declaredName? (d : OperationObject) : Option String :=
  (d.operationId.map Text.trim).filter (!·.isEmpty)

/-- The name of an operation before conventions: the declared one, or one made from its path, which
is noted. -/
def rawName (path : String) (method : HttpMethod) (d : OperationObject) : Noted String :=
  match declaredName? d with
  | some name => pure name
  | none => do
    let made := Identifier.ofPathAndMethod path method.keyword
    Noted.diagnose .synthesizedOperationId (method.word ++ " " ++ path)
      ("No operationId declared; using '" ++ made ++ "'")
    return made

/-- The name of an operation. -/
def nameOf (c : Context) (path : String) (method : HttpMethod) (d : OperationObject) :
    Noted (Except Failure String) := do
  let declared ← rawName path method d
  let raw := if c.options.removeOperationIdPrefix then Identifier.dropFirstWord declared else declared
  let name := c.conventions.operationName raw
  return if name.isEmpty then .error (.noOperationName method path raw) else .ok name

/-- Whether two declarations are of the same parameter; the case of ASCII letters in the location
does not count. -/
def sameParameter (p q : ParameterObject) : Bool :=
  p.name == q.name && Text.toLowerAscii p.location == Text.toLowerAscii q.location

/-- The parameters of an operation followed by those of its path that it does not declare itself. -/
def mergeParameters (c : Context) (ofPath ofOperation : List (OrReference ParameterObject)) :
    Noted (List ParameterObject) := do
  let own ← Noted.filterMapList c.parameter? ofOperation
  let shared ← Noted.filterMapList c.parameter? ofPath
  return own ++ shared.filter fun p => !own.any (sameParameter · p)

/-- The declared parameters, with deep objects replaced by what they stand for. -/
def declaredParameters (c : Context) (ofPath ofOperation : List (OrReference ParameterObject)) :
    Noted (List (Using Parameter)) := do
  let merged ← mergeParameters c ofPath ofOperation
  Noted.mapList (Parameter.ofDeclaration c)
    (merged.flatMap fun d => (d.deepObject? c).getD [d])

/-- The contribution of the request body. -/
def requestOf (c : Context) (d : OperationObject) : Noted Request :=
  match d.requestBody with
  | none => pure {}
  | some part => do
    match ← c.requestBody? part with
    | some body => Request.ofBody c body
    | none => return {}

/-- A declared response with what was made of it. -/
structure Answer where
  declared : ResponseObject
  response : Using Response

/-- The response under a code; a reference to nothing is left out. -/
def answerOf (c : Context) (selected : Option String) (code : String)
    (part : OrReference ResponseObject) : Noted (Option Answer) := do
  match ← c.response? part with
  | none => return none
  | some d => do
    let r ← Response.ofDeclaration c code d
    return some ⟨d, { r with value := { r.value with isDefault := some code == selected } }⟩

/-- The responses of an operation. -/
def answersOf (c : Context) (d : OperationObject) : Noted (List Answer) :=
  Noted.filterMapList
    (fun e => answerOf c (Response.selected? (Entries.keys d.responses)) e.1 e.2) d.responses

/-- The model that the payload of a response refers to; a name that is only another word for a type
is none. -/
def payloadModel? (c : Context) (models : ModelMap) (d : ResponseObject) : Option Model := do
  let (_, s) ← Response.payload? d
  let name ← Response.referencedModel? c s
  let m ← Entries.lookup? name models
  if m.isAlias then none else some m

/-- The type that the items of a returned container have, or the returned type itself. -/
def returnedBaseType (p : Property) : String :=
  match p.items with
  | some items => items.baseType
  | none => p.complexType.getD p.baseType

/-- Gives an operation its responses, and what it returns. -/
def withAnswers (c : Context) (models : ModelMap) (answers : List Answer) (o : Operation) :
    Operation :=
  let responses := Response.markHasMore (answers.map (·.response.value))
  let returned := answers.find? fun a => a.response.value.isDefault
  let model := returned.bind fun a => payloadModel? c models a.declared
  let o := { o with
    responses
    produces := insertTexts (answers.flatMap fun (a : Answer) => Entries.keys a.declared.content) []
    responseHeaders := (returned.map fun (a : Answer) => a.response.value.headers).getD []
    hasReference := model.isSome
    discriminator := model.bind (·.discriminator) }
  match returned.bind fun a => a.response.value.schema with
  | none => { o with returnSimpleType := true, returnTypeIsPrimitive := true }
  | some p =>
    let baseType := returnedBaseType p
    { o with
      returnTypeIsPrimitive := c.conventions.isPrimitive baseType
      returnType := some p.datatype
      returnBaseType := some baseType
      returnContainer := p.container
      returnSimpleType := !p.isContainer }

/-- The parameters of a list at a location. -/
def atLocation (location : ParameterLocation) (ps : List Parameter) : List Parameter :=
  ps.filter (·.location == some location)

/-- Gives an operation its parameters: those of the request body and the declared ones. -/
def withParameters (sorted : Bool) (request : Request) (ps : List Parameter) (o : Operation) :
    Operation :=
  let all := request.formParams ++ request.bodyParam.toList ++ ps
  { o with
    allParams := Parameter.markHasMore (if sorted then Parameter.requiredFirst all else all)
    bodyParams := Parameter.markHasMore (request.bodyParam.toList ++ atLocation .body ps)
    pathParams := Parameter.markHasMore (atLocation .path ps)
    queryParams := Parameter.markHasMore (atLocation .query ps)
    headerParams := Parameter.markHasMore (atLocation .header ps)
    cookieParams := Parameter.markHasMore (atLocation .cookie ps)
    formParams := Parameter.markHasMore (request.formParams ++ atLocation .form ps)
    requiredParams := Parameter.markHasMore (all.filter (·.required))
    bodyParam := request.bodyParam
    consumes := request.consumes
    hasParams := !all.isEmpty
    hasRequiredParams := all.any (·.required)
    hasOptionalParams := all.any (!·.required) }

/-- Finishes the parameters of a content: names, order and marks. -/
def finishContent (unique : Bool) (content : Content) : Content :=
  let named :=
    if unique then Parameter.ensureUnique content.parameters else content.parameters
  { content with parameters := Parameter.markHasMore (Parameter.requiredFirst named) }

/-- The contents of an operation: those of its body with the parameters beside the body, or one
content with all parameters. -/
def contentsOf (unique : Bool) (contents : List Content) (o : Operation) : List Content :=
  let beside := o.headerParams ++ o.queryParams ++ o.pathParams ++ o.cookieParams
  let full :=
    if contents.isEmpty then [({ parameters := o.allParams } : Content)]
    else contents.map fun content => { content with parameters := content.parameters ++ beside }
  full.map (finishContent unique)

/-- The operation of a declaration under its name. -/
def named (c : Context) (models : ModelMap) (path : String) (method : HttpMethod)
    (ofPath : List (OrReference ParameterObject)) (d : OperationObject) (name : String) :
    Noted Operation := do
  let request ← requestOf c d
  let ps ← declaredParameters c ofPath d.parameters
  let answers ← answersOf c d
  let start : Operation :=
    { path, method
      operationId := name
      summary := d.summary
      notes := d.description
      deprecated := d.deprecated
      tags := d.tags
      extensions := extensionEntries d.others
      security := SecurityRequirement.schemeNames (d.security.getD c.document.security)
      imports := insertTexts (request.imports ++ ps.flatMap (·.imports) ++
        answers.flatMap (·.response.imports)) [] }
  let o := withParameters c.options.sortParamsByRequired request (ps.map (·.value))
    (withAnswers c models answers start)
  return { o with
    contents := contentsOf c.options.ensureUniqueParams request.contents o
    hasReference := o.hasReference || o.allParams.any (·.isModel)
    testPath := fillPath path o.pathParams }

/-- The operation of a declaration. -/
def ofDeclaration (c : Context) (models : ModelMap) (path : String) (method : HttpMethod)
    (ofPath : List (OrReference ParameterObject)) (d : OperationObject) :
    Noted (Except Failure Operation) := do
  match ← nameOf c path method d with
  | .error failure => return .error failure
  | .ok name => do
    let o ← named c models path method ofPath d name
    return .ok o

end Operation
end ApiResolution
