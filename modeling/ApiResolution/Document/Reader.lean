import ApiResolution.Document
import ApiResolution.Schema.Reader
import ApiResolution.Yaml.Slot

/-!
Reading documents. An optional part may be null; a list, a mapping or a flag may be missing but not
null. Parameters, bodies, responses and operations keep their unknown members, other parts ignore
them.
-/

namespace ApiResolution

open Source
open Yaml (Slot)

/-- Reads a part that may be a reference: a mapping with one text member `$ref` is a reference
whatever else it holds. -/
def OrReference.read? {α : Type} (read : Source → Option α) (source : Source) :
    Option (OrReference α) :=
  match source.onlyText? "$ref" with
  | some target => some (.reference target)
  | none => (read source).map .inline

/-- Reads a media type. -/
def MediaTypeObject.read? (source : Source) : Option MediaTypeObject := do
  let ms ← source.record? ["schema", "example", "examples"]
  let schema ← optionalField? ms "schema" Schema.read?
  let exampleValue ← optionalField? ms "example" json?
  let examples ← optionalField? ms "examples" (entries? json?)
  return { schema, exampleValue, examples }

/-- The known members of a parameter. -/
def ParameterObject.names : List String :=
  ["name", "in", "description", "required", "deprecated", "schema", "content", "style", "explode",
    "example"]

/-- Reads a parameter. -/
def ParameterObject.read? (source : Source) : Option ParameterObject := do
  let ms ← source.openRecord? names
  let name ← required? ms "name" string?
  let location ← required? ms "in" string?
  let description ← optionalField? ms "description" string?
  let required ← field? ms "required" false bool?
  let deprecated ← field? ms "deprecated" false bool?
  let schema ← optionalField? ms "schema" Schema.read?
  let content ← optionalField? ms "content" (entries? MediaTypeObject.read?)
  let style ← optionalField? ms "style" string?
  let explode ← optionalField? ms "explode" bool?
  let exampleValue ← optionalField? ms "example" json?
  let others ← others? names ms
  return { name, location, description, required, deprecated, schema, content, style, explode
           exampleValue, others }

/-- The known members of a request body. -/
def RequestBodyObject.names : List String := ["description", "content", "required"]

/-- Reads a request body. -/
def RequestBodyObject.read? (source : Source) : Option RequestBodyObject := do
  let ms ← source.openRecord? names
  let description ← optionalField? ms "description" string?
  let content ← field? ms "content" [] (entries? MediaTypeObject.read?)
  let required ← field? ms "required" false bool?
  let others ← others? names ms
  return { description, content, required, others }

/-- Reads a header. -/
def HeaderObject.read? (source : Source) : Option HeaderObject := do
  let ms ← source.record? ["description", "required", "schema"]
  let description ← optionalField? ms "description" string?
  let required ← field? ms "required" false bool?
  let schema ← optionalField? ms "schema" Schema.read?
  return { description, required, schema }

/-- The known members of a response. -/
def ResponseObject.names : List String := ["description", "headers", "content"]

/-- Reads a response. -/
def ResponseObject.read? (source : Source) : Option ResponseObject := do
  let ms ← source.openRecord? names
  let description ← optionalField? ms "description" string?
  let headers ← field? ms "headers" []
    (entries? (OrReference.read? HeaderObject.read?))
  let content ← field? ms "content" [] (entries? MediaTypeObject.read?)
  let others ← others? names ms
  return { description, headers, content, others }

/-- Reads a flow. -/
def OAuthFlow.read? (source : Source) : Option OAuthFlow := do
  let ms ← source.record? ["authorizationUrl", "tokenUrl", "refreshUrl", "scopes"]
  let authorizationUrl ← optionalField? ms "authorizationUrl" string?
  let tokenUrl ← optionalField? ms "tokenUrl" string?
  let refreshUrl ← optionalField? ms "refreshUrl" string?
  let scopes ← field? ms "scopes" [] (entries? string?)
  return { authorizationUrl, tokenUrl, refreshUrl, scopes }

/-- Reads the flows of a scheme. -/
def OAuthFlows.read? (source : Source) : Option OAuthFlows := do
  let ms ← source.record? ["implicit", "password", "clientCredentials", "authorizationCode"]
  let implicit ← optionalField? ms "implicit" OAuthFlow.read?
  let password ← optionalField? ms "password" OAuthFlow.read?
  let clientCredentials ← optionalField? ms "clientCredentials" OAuthFlow.read?
  let authorizationCode ← optionalField? ms "authorizationCode" OAuthFlow.read?
  return { implicit, password, clientCredentials, authorizationCode }

/-- Reads a security scheme. -/
def SecuritySchemeObject.read? (source : Source) : Option SecuritySchemeObject := do
  let ms ← source.record?
    ["type", "description", "name", "in", "scheme", "bearerFormat", "flows", "openIdConnectUrl"]
  let schemeType ← required? ms "type" string?
  let description ← optionalField? ms "description" string?
  let name ← optionalField? ms "name" string?
  let location ← optionalField? ms "in" string?
  let scheme ← optionalField? ms "scheme" string?
  let bearerFormat ← optionalField? ms "bearerFormat" string?
  let flows ← optionalField? ms "flows" OAuthFlows.read?
  let openIdConnectUrl ← optionalField? ms "openIdConnectUrl" string?
  return { schemeType, description, name, location, scheme, bearerFormat, flows, openIdConnectUrl }

/-- Reads a list of security requirements. -/
def readRequirements? : Source → Option (List SecurityRequirement) :=
  list? (entries? (list? string?))

/-- The known members of an operation. -/
def OperationObject.names : List String :=
  ["tags", "summary", "description", "operationId", "parameters", "requestBody", "responses",
    "deprecated", "security"]

/-- Reads an operation. -/
def OperationObject.read? (source : Source) : Option OperationObject := do
  let ms ← source.openRecord? names
  let tags ← field? ms "tags" [] (list? string?)
  let summary ← optionalField? ms "summary" string?
  let description ← optionalField? ms "description" string?
  let operationId ← optionalField? ms "operationId" string?
  let parameters ← field? ms "parameters" []
    (list? (OrReference.read? ParameterObject.read?))
  let requestBody ← optionalField? ms "requestBody"
    (OrReference.read? RequestBodyObject.read?)
  let responses ← field? ms "responses" []
    (entries? (OrReference.read? ResponseObject.read?))
  let deprecated ← field? ms "deprecated" false bool?
  let security ← optionalField? ms "security" readRequirements?
  let others ← others? names ms
  return { tags, summary, description, operationId, parameters, requestBody, responses, deprecated
           security, others }

/-- Reads a path item. -/
def PathItem.read? (source : Source) : Option PathItem := do
  let ms ← source.record?
    ["get", "put", "post", "delete", "options", "head", "patch", "trace", "parameters"]
  let get ← optionalField? ms "get" OperationObject.read?
  let put ← optionalField? ms "put" OperationObject.read?
  let post ← optionalField? ms "post" OperationObject.read?
  let delete ← optionalField? ms "delete" OperationObject.read?
  let options ← optionalField? ms "options" OperationObject.read?
  let head ← optionalField? ms "head" OperationObject.read?
  let patch ← optionalField? ms "patch" OperationObject.read?
  let trace ← optionalField? ms "trace" OperationObject.read?
  let parameters ← field? ms "parameters" []
    (list? (OrReference.read? ParameterObject.read?))
  return { get, put, post, delete, options, head, patch, trace, parameters }

/-- Reads the path items; names that mark extensions are skipped. -/
def readPaths? (source : Source) : Option (Entries PathItem) := do
  let values ← source.entries? json?
  (values.filter fun e => !isExtensionName e.1).mapM fun (k, v) =>
    (PathItem.read? (.ofJson v)).map (k, ·)

/-- Reads the components. -/
def Components.read? (source : Source) : Option Components := do
  let ms ← source.record?
    ["schemas", "parameters", "requestBodies", "responses", "headers", "securitySchemes"]
  let schemas ← field? ms "schemas" [] (entries? Schema.read?)
  let parameters ← field? ms "parameters" []
    (entries? (OrReference.read? ParameterObject.read?))
  let requestBodies ← field? ms "requestBodies" []
    (entries? (OrReference.read? RequestBodyObject.read?))
  let responses ← field? ms "responses" []
    (entries? (OrReference.read? ResponseObject.read?))
  let headers ← field? ms "headers" []
    (entries? (OrReference.read? HeaderObject.read?))
  let securitySchemes ← field? ms "securitySchemes" []
    (entries? (OrReference.read? SecuritySchemeObject.read?))
  return { schemas, parameters, requestBodies, responses, headers, securitySchemes }

namespace Document

/-- Reads a document. -/
def read? (source : Source) : Option Document := do
  let ms ← source.record? ["openapi", "$self", "paths", "components", "security"]
  let openapi ← optionalField? ms "openapi" string?
  let self ← optionalField? ms "$self" string?
  let paths ← field? ms "paths" [] readPaths?
  let components ← field? ms "components" {} Components.read?
  let security ← field? ms "security" [] readRequirements?
  return { openapi, self, paths, components, security }

/-- The document of a JSON value. -/
def ofJson? (j : Json) : Option Document := read? (.ofJson j)

/-- What a document in YAML is read as. -/
def slot : Slot :=
  .record [
    ("openapi", .optional .text),
    ("$self", .optional .text),
    ("paths", .entries .value),
    ("components", .record [
      ("schemas", .entries .schema),
      ("parameters", .entries .whole),
      ("requestBodies", .entries .whole),
      ("responses", .entries .whole),
      ("headers", .entries .whole),
      ("securitySchemes", .entries .whole)]),
    ("security", .list (.entries (.list .text)))]

/-- The document of a text in YAML, which covers JSON. -/
def parse? (text : String) : Option Document :=
  (slot.readText? text).bind read?

end Document
end ApiResolution
