import ApiResolution.Json.Member
import ApiResolution.Security

/-!
The JSON form of security schemes.
-/

namespace ApiResolution

/-- The JSON form of a security scheme. -/
def SecurityScheme.toJson (s : SecurityScheme) : Json :=
  objectOf [
    member "name" (.string s.name),
    member "kind" (.string s.kind.keyword),
    member "scheme_type" (.string s.schemeType),
    optionalMember "description" .string s.description,
    optionalMember "key_param_name" .string s.keyName,
    member "is_key_in_header" (.bool s.isKeyInHeader),
    member "is_key_in_query" (.bool s.isKeyInQuery),
    member "is_key_in_cookie" (.bool s.isKeyInCookie),
    member "is_basic" (.bool s.isBasic),
    member "is_bearer" (.bool s.isBearer),
    optionalMember "bearer_format" .string s.bearerFormat,
    optionalMember "flow" (fun f => .string f.keyword) s.flow,
    optionalMember "authorization_url" .string s.authorizationUrl,
    optionalMember "token_url" .string s.tokenUrl,
    optionalMember "refresh_url" .string s.refreshUrl,
    member "scopes" (entriesJson .string s.scopes),
    optionalMember "open_id_connect_url" .string s.openIdConnectUrl,
    member "has_more" (.bool s.hasMore)]

end ApiResolution
