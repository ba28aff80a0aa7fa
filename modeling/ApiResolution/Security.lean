import ApiResolution.Entries

/-!
Security schemes, described for code generation.
-/

namespace ApiResolution

/-- The families of security schemes. -/
inductive SecurityKind where
  | apiKey
  | http
  | oauth2
  | openIdConnect
  | other
deriving DecidableEq, Repr

/-- The word of a family. -/
def SecurityKind.keyword : SecurityKind → String
  | apiKey => "apiKey"
  | http => "http"
  | oauth2 => "oAuth2"
  | openIdConnect => "openIdConnect"
  | other => "other"

/-- The flows of OAuth 2. -/
inductive FlowKind where
  | password
  | implicit
  | application
  | accessCode
deriving DecidableEq, Repr

/-- The word of a flow. -/
def FlowKind.keyword : FlowKind → String
  | password => "password"
  | implicit => "implicit"
  | application => "application"
  | accessCode => "accessCode"

/-- A security scheme. -/
structure SecurityScheme where
  name : String
  kind : SecurityKind
  /-- The type as declared. -/
  schemeType : String := ""
  description : Option String := none
  keyName : Option String := none
  isKeyInHeader : Bool := false
  isKeyInQuery : Bool := false
  isKeyInCookie : Bool := false
  isBasic : Bool := false
  isBearer : Bool := false
  bearerFormat : Option String := none
  flow : Option FlowKind := none
  authorizationUrl : Option String := none
  tokenUrl : Option String := none
  refreshUrl : Option String := none
  scopes : Entries String := []
  openIdConnectUrl : Option String := none
  /-- Whether another scheme follows in the list. -/
  hasMore : Bool := false
deriving DecidableEq, Repr

namespace SecurityScheme

/-- Marks every scheme of a list but the last one as followed by another. -/
def markHasMore : List SecurityScheme → List SecurityScheme
  | [] => []
  | [s] => [{ s with hasMore := false }]
  | s :: t :: ss => { s with hasMore := true } :: markHasMore (t :: ss)

end SecurityScheme
end ApiResolution
