import ApiResolution.Document
import ApiResolution.Schema.Writer

/-!
The JSON form of documents. Optional parts that are absent are written as null, apart from the
operations of a path, and unknown members follow the known ones.
-/

namespace ApiResolution

/-- The JSON form of a part that may be a reference. -/
def OrReference.toJson {α : Type} (write : α → Json) : OrReference α → Json
  | reference t => .object [("$ref", .string t)]
  | inline x => write x

/-- The JSON form of a media type. -/
def MediaTypeObject.toJson (m : MediaTypeObject) : Json :=
  .object [
    ("schema", nullable Schema.toJson m.schema),
    ("example", nullable id m.exampleValue),
    ("examples", nullable Json.object m.examples)]

/-- The JSON form of a parameter. -/
def ParameterObject.toJson (p : ParameterObject) : Json :=
  .object ([
    ("name", .string p.name),
    ("in", .string p.location),
    ("description", .ofString? p.description),
    ("required", .bool p.required),
    ("deprecated", .bool p.deprecated),
    ("schema", nullable Schema.toJson p.schema),
    ("content", nullable (entriesJson MediaTypeObject.toJson) p.content),
    ("style", .ofString? p.style),
    ("explode", nullable Json.bool p.explode),
    ("example", nullable id p.exampleValue)] ++ p.others)

/-- The JSON form of a request body. -/
def RequestBodyObject.toJson (b : RequestBodyObject) : Json :=
  .object ([
    ("description", .ofString? b.description),
    ("content", entriesJson MediaTypeObject.toJson b.content),
    ("required", .bool b.required)] ++ b.others)

/-- The JSON form of a header. -/
def HeaderObject.toJson (h : HeaderObject) : Json :=
  .object [
    ("description", .ofString? h.description),
    ("required", .bool h.required),
    ("schema", nullable Schema.toJson h.schema)]

/-- The JSON form of a response. -/
def ResponseObject.toJson (r : ResponseObject) : Json :=
  .object ([
    ("description", .ofString? r.description),
    ("headers", entriesJson (OrReference.toJson HeaderObject.toJson) r.headers),
    ("content", entriesJson MediaTypeObject.toJson r.content)] ++ r.others)

/-- The JSON form of a flow. -/
def OAuthFlow.toJson (f : OAuthFlow) : Json :=
  .object [
    ("authorizationUrl", .ofString? f.authorizationUrl),
    ("tokenUrl", .ofString? f.tokenUrl),
    ("refreshUrl", .ofString? f.refreshUrl),
    ("scopes", entriesJson Json.string f.scopes)]

/-- The JSON form of the flows of a scheme. -/
def OAuthFlows.toJson (f : OAuthFlows) : Json :=
  .object [
    ("implicit", nullable OAuthFlow.toJson f.implicit),
    ("password", nullable OAuthFlow.toJson f.password),
    ("clientCredentials", nullable OAuthFlow.toJson f.clientCredentials),
    ("authorizationCode", nullable OAuthFlow.toJson f.authorizationCode)]

/-- The JSON form of a security scheme. -/
def SecuritySchemeObject.toJson (s : SecuritySchemeObject) : Json :=
  .object [
    ("type", .string s.schemeType),
    ("description", .ofString? s.description),
    ("name", .ofString? s.name),
    ("in", .ofString? s.location),
    ("scheme", .ofString? s.scheme),
    ("bearerFormat", .ofString? s.bearerFormat),
    ("flows", nullable OAuthFlows.toJson s.flows),
    ("openIdConnectUrl", .ofString? s.openIdConnectUrl)]

/-- The JSON form of security requirements. -/
def requirementsJson (rs : List SecurityRequirement) : Json :=
  .array (rs.map (entriesJson Json.strings))

/-- The JSON form of an operation. -/
def OperationObject.toJson (o : OperationObject) : Json :=
  .object ([
    ("tags", .strings o.tags),
    ("summary", .ofString? o.summary),
    ("description", .ofString? o.description),
    ("operationId", .ofString? o.operationId),
    ("parameters", .array (o.parameters.map (OrReference.toJson ParameterObject.toJson))),
    ("requestBody", nullable (OrReference.toJson RequestBodyObject.toJson) o.requestBody),
    ("responses", entriesJson (OrReference.toJson ResponseObject.toJson) o.responses),
    ("deprecated", .bool o.deprecated),
    ("security", nullable requirementsJson o.security)] ++ o.others)

/-- The JSON form of a path item. -/
def PathItem.toJson (p : PathItem) : Json :=
  objectOf [
    optionalMember "get" OperationObject.toJson p.get,
    optionalMember "put" OperationObject.toJson p.put,
    optionalMember "post" OperationObject.toJson p.post,
    optionalMember "delete" OperationObject.toJson p.delete,
    optionalMember "options" OperationObject.toJson p.options,
    optionalMember "head" OperationObject.toJson p.head,
    optionalMember "patch" OperationObject.toJson p.patch,
    optionalMember "trace" OperationObject.toJson p.trace,
    listMember "parameters" (OrReference.toJson ParameterObject.toJson) p.parameters]

/-- The JSON form of components. -/
def Components.toJson (c : Components) : Json :=
  .object [
    ("schemas", entriesJson Schema.toJson c.schemas),
    ("parameters", entriesJson (OrReference.toJson ParameterObject.toJson) c.parameters),
    ("requestBodies", entriesJson (OrReference.toJson RequestBodyObject.toJson) c.requestBodies),
    ("responses", entriesJson (OrReference.toJson ResponseObject.toJson) c.responses),
    ("headers", entriesJson (OrReference.toJson HeaderObject.toJson) c.headers),
    ("securitySchemes",
      entriesJson (OrReference.toJson SecuritySchemeObject.toJson) c.securitySchemes)]

/-- The JSON form of a document. -/
def Document.toJson (d : Document) : Json :=
  objectOf [
    member "openapi" (.ofString? d.openapi),
    optionalMember "$self" .string d.self,
    member "paths" (entriesJson PathItem.toJson d.paths),
    member "components" d.components.toJson,
    listMember "security" (entriesJson Json.strings) d.security]

end ApiResolution
