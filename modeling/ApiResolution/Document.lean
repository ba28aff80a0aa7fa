import ApiResolution.Schema

/-!
API documents: path items with their operations, and components that references may point to. The
types hold what resolution looks at; parameters, bodies, responses and operations also keep every
member that they do not know.
-/

namespace ApiResolution

/-- A part of a document that is written in place or referred to. -/
inductive OrReference (α : Type) where
  | reference (target : String)
  | inline (value : α)
deriving Repr

/-- The payload of one media type. -/
structure MediaTypeObject where
  schema : Option Schema := none
  exampleValue : Option Json := none
  examples : Option (Entries Json) := none
deriving Repr

/-- A declared parameter. -/
structure ParameterObject where
  name : String
  location : String
  description : Option String := none
  required : Bool := false
  deprecated : Bool := false
  schema : Option Schema := none
  content : Option (Entries MediaTypeObject) := none
  style : Option String := none
  explode : Option Bool := none
  exampleValue : Option Json := none
  others : Entries Json := []
deriving Repr

/-- A declared request body. -/
structure RequestBodyObject where
  description : Option String := none
  content : Entries MediaTypeObject := []
  required : Bool := false
  others : Entries Json := []
deriving Repr

/-- A declared header. -/
structure HeaderObject where
  description : Option String := none
  required : Bool := false
  schema : Option Schema := none
deriving Repr

/-- A declared response. -/
structure ResponseObject where
  description : Option String := none
  headers : Entries (OrReference HeaderObject) := []
  content : Entries MediaTypeObject := []
  others : Entries Json := []
deriving Repr

/-- One flow of an OAuth 2 scheme. -/
structure OAuthFlow where
  authorizationUrl : Option String := none
  tokenUrl : Option String := none
  refreshUrl : Option String := none
  scopes : Entries String := []
deriving DecidableEq, Repr

/-- The flows of an OAuth 2 scheme. -/
structure OAuthFlows where
  implicit : Option OAuthFlow := none
  password : Option OAuthFlow := none
  clientCredentials : Option OAuthFlow := none
  authorizationCode : Option OAuthFlow := none
deriving DecidableEq, Repr

/-- A declared security scheme. -/
structure SecuritySchemeObject where
  schemeType : String
  description : Option String := none
  name : Option String := none
  location : Option String := none
  scheme : Option String := none
  bearerFormat : Option String := none
  flows : Option OAuthFlows := none
  openIdConnectUrl : Option String := none
deriving DecidableEq, Repr

/-- Names of security schemes with the scopes that each of them has to grant. -/
abbrev SecurityRequirement := Entries (List String)

/-- A declared operation. -/
structure OperationObject where
  tags : List String := []
  summary : Option String := none
  description : Option String := none
  operationId : Option String := none
  parameters : List (OrReference ParameterObject) := []
  requestBody : Option (OrReference RequestBodyObject) := none
  responses : Entries (OrReference ResponseObject) := []
  deprecated : Bool := false
  security : Option (List SecurityRequirement) := none
  others : Entries Json := []
deriving Repr

/-- The operations of a path, and the parameters that they share. -/
structure PathItem where
  get : Option OperationObject := none
  put : Option OperationObject := none
  post : Option OperationObject := none
  delete : Option OperationObject := none
  options : Option OperationObject := none
  head : Option OperationObject := none
  patch : Option OperationObject := none
  trace : Option OperationObject := none
  parameters : List (OrReference ParameterObject) := []
deriving Repr

/-- The parts of a document that are referred to by name. -/
structure Components where
  schemas : Entries Schema := []
  parameters : Entries (OrReference ParameterObject) := []
  requestBodies : Entries (OrReference RequestBodyObject) := []
  responses : Entries (OrReference ResponseObject) := []
  headers : Entries (OrReference HeaderObject) := []
  securitySchemes : Entries (OrReference SecuritySchemeObject) := []
deriving Repr

/-- An API document; `self` is the address under which references may name it. -/
structure Document where
  openapi : Option String := none
  self : Option String := none
  paths : Entries PathItem := []
  components : Components := {}
  security : List SecurityRequirement := []
deriving Repr

/-- The first example of a media type: its own one, else the value of its first named one. -/
def MediaTypeObject.firstExample? (m : MediaTypeObject) : Option Json :=
  match m.exampleValue with
  | some e => some e
  | none =>
    match m.examples with
    | some ((_, first) :: _) => some ((first.member? "value").getD first)
    | _ => none

/-- The entries whose names mark extensions. -/
def extensionEntries (others : Entries Json) : Entries Json :=
  others.filter fun e => isExtensionName e.1

end ApiResolution
