import ApiResolution.Context
import ApiResolution.Security

/-!
The security schemes of a document, sorted by name. A scheme of OAuth 2 contributes the first flow
that it declares; one without any fails. A reference is followed by the last segment of its path.
-/

namespace ApiResolution

open Identifier (splitWhere)

/-- The first declared flow: password, implicit, client credentials, authorization code. -/
def OAuthFlows.first? (flows : OAuthFlows) : Option (FlowKind × OAuthFlow) :=
  (flows.password.map (FlowKind.password, ·)).or <|
    (flows.implicit.map (FlowKind.implicit, ·)).or <|
      (flows.clientCredentials.map (FlowKind.application, ·)).or
        (flows.authorizationCode.map (FlowKind.accessCode, ·))

namespace SecurityScheme

/-- The family of a declared type. -/
def kindOf : String → SecurityKind
  | "apiKey" => .apiKey
  | "http" => .http
  | "oauth2" => .oauth2
  | "openIdConnect" => .openIdConnect
  | _ => .other

/-- A scheme that sends a key. -/
def withKey (d : SecuritySchemeObject) (s : SecurityScheme) : SecurityScheme :=
  { s with
    keyName := d.name
    isKeyInHeader := d.location == some "header"
    isKeyInQuery := d.location == some "query"
    isKeyInCookie := d.location == some "cookie" }

/-- A scheme of HTTP authentication; the case of ASCII letters does not count. -/
def withHttp (d : SecuritySchemeObject) (s : SecurityScheme) : SecurityScheme :=
  let word := d.scheme.map Text.toLowerAscii
  let isBearer := word == some "bearer"
  { s with
    isBasic := word == some "basic"
    isBearer
    bearerFormat := if isBearer then d.bearerFormat else none }

/-- A scheme with a flow. -/
def withFlow (kind : FlowKind) (flow : OAuthFlow) (s : SecurityScheme) : SecurityScheme :=
  { s with
    flow := some kind
    authorizationUrl := flow.authorizationUrl
    tokenUrl := flow.tokenUrl
    refreshUrl := flow.refreshUrl
    scopes := flow.scopes }

/-- The scheme of a declaration. -/
def ofDeclaration (name : String) (d : SecuritySchemeObject) : Except Failure SecurityScheme :=
  let kind := kindOf d.schemeType
  let s : SecurityScheme := { name, kind, schemeType := d.schemeType, description := d.description }
  match kind with
  | .apiKey => .ok (s.withKey d)
  | .http => .ok (s.withHttp d)
  | .oauth2 =>
    match d.flows.bind OAuthFlows.first? with
    | some (flowKind, flow) => .ok (s.withFlow flowKind flow)
    | none => .error (.noFlow name)
  | .openIdConnect => .ok { s with openIdConnectUrl := d.openIdConnectUrl }
  | .other => .ok s

/-- The last segment of a path. -/
def lastSegment (target : String) : String :=
  match (splitWhere (· == '/') target.toList).getLast? with
  | some segment => String.ofList segment
  | none => target

/-- The declaration at the end of a chain of at most `hops` parts. -/
def followFrom? (schemes : Entries (OrReference SecuritySchemeObject)) :
    Nat → OrReference SecuritySchemeObject → Option SecuritySchemeObject
  | 0, _ => none
  | _ + 1, .inline d => some d
  | hops + 1, .reference target =>
    match Entries.lookup? (lastSegment target) schemes with
    | some next => followFrom? schemes hops next
    | none => none

/-- The declaration at the end of a chain of references. -/
def follow? (schemes : Entries (OrReference SecuritySchemeObject))
    (part : OrReference SecuritySchemeObject) : Option SecuritySchemeObject :=
  followFrom? schemes (schemes.length + 1) part

/-- The schemes of declarations in order, up to the first one that fails; references to nothing are
left out, and a type of no known family is noted. -/
def ofDeclarations : List (String × SecuritySchemeObject) →
    Noted (Except Failure (List SecurityScheme))
  | [] => pure (.ok [])
  | (name, d) :: rest =>
    match ofDeclaration name d with
    | .error failure => pure (.error failure)
    | .ok s => do
      if s.kind = .other then
        Noted.diagnose .unsupportedSecurityScheme name
          ("Security scheme '" ++ name ++ "' has type '" ++ s.schemeType ++
            "'; only its name and type are kept")
      match ← ofDeclarations rest with
      | .error failure => return .error failure
      | .ok ss => return .ok (s :: ss)

/-- The schemes of a document, sorted by name. -/
def ofDocument (document : Document) : Noted (Except Failure (List SecurityScheme)) := do
  let schemes := document.components.securitySchemes
  let declared := schemes.filterMap fun e => (follow? schemes e.2).map (e.1, ·)
  match ← ofDeclarations declared with
  | .error failure => return .error failure
  | .ok ss => return .ok (markHasMore (ss.mergeSort fun s t => s.name ≤ t.name))

end SecurityScheme
end ApiResolution
