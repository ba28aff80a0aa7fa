import ApiResolution.Property

/-!
Operations with their parameters, contents and responses, described for code generation.
-/

namespace ApiResolution

/-- The methods of operations. -/
inductive HttpMethod where
  | get
  | put
  | post
  | delete
  | options
  | head
  | patch
  | trace
deriving DecidableEq, Repr

namespace HttpMethod

/-- All methods, in the order in which the operations of a path are taken. -/
def all : List HttpMethod := [get, put, post, delete, options, head, patch, trace]

/-- The lower-case word of a method. -/
def keyword : HttpMethod → String
  | get => "get"
  | put => "put"
  | post => "post"
  | delete => "delete"
  | options => "options"
  | head => "head"
  | patch => "patch"
  | trace => "trace"

/-- The upper-case word of a method. -/
def word : HttpMethod → String
  | get => "GET"
  | put => "PUT"
  | post => "POST"
  | delete => "DELETE"
  | options => "OPTIONS"
  | head => "HEAD"
  | patch => "PATCH"
  | trace => "TRACE"

/-- The method of a lower-case word. -/
def ofKeyword? (s : String) : Option HttpMethod := all.find? fun m => m.keyword == s

end HttpMethod

/-- Where a parameter travels. -/
inductive ParameterLocation where
  | path
  | query
  | header
  | cookie
  | body
  | form
deriving DecidableEq, Repr

namespace ParameterLocation

/-- The word of a location. -/
def keyword : ParameterLocation → String
  | path => "path"
  | query => "query"
  | header => "header"
  | cookie => "cookie"
  | body => "body"
  | form => "form"

/-- The location that a word names; the case of ASCII letters does not count. -/
def ofKeyword? (s : String) : Option ParameterLocation :=
  match String.ofList (s.toList.map Char.toLower) with
  | "path" => some path
  | "query" => some query
  | "header" => some header
  | "cookie" => some cookie
  | "body" => some body
  | "formdata" => some form
  | "form" => some form
  | _ => none

end ParameterLocation

/-- How an array parameter is written. -/
inductive CollectionFormat where
  | multi
  | csv
  | pipe
  | space
deriving DecidableEq, Repr

/-- The word of a collection format. -/
def CollectionFormat.keyword : CollectionFormat → String
  | multi => "multi"
  | csv => "csv"
  | pipe => "pipe"
  | space => "space"

/-- A parameter of an operation. -/
structure Parameter where
  /-- The name in documents. -/
  baseName : String
  /-- The identifier in the target language. -/
  paramName : String
  description : Option String := none
  location : Option ParameterLocation := none
  dataType : String := ""
  dataFormat : Option String := none
  baseType : Option String := none
  datatypeWithEnum : Option String := none
  enumName : Option String := none
  required : Bool := false
  nullable : Bool := false
  deprecated : Bool := false
  isMultipart : Bool := false
  /-- Whether a body refers to a model. -/
  isModel : Bool := false
  container : ContainerKind := .none
  items : Option Property := none
  collectionFormat : Option CollectionFormat := none
  isEnum : Bool := false
  enumValues : Option EnumValues := none
  defaultText : Option String := none
  exampleText : Option String := none
  validation : Validation := {}
  hasValidation : Bool := false
  flags : TypeFlags := {}
  /-- The media type from which the schema was taken. -/
  contentType : Option String := none
  hasMore : Bool := false
  extensions : Entries Json := []
deriving Repr

namespace Parameter

/-- Marks every parameter of a list but the last one as followed by another. -/
def markHasMore : List Parameter → List Parameter
  | [] => []
  | [p] => [{ p with hasMore := false }]
  | p :: q :: ps => { p with hasMore := true } :: markHasMore (q :: ps)

end Parameter

/-- The parameters that go with some media types of the request. -/
structure Content where
  contentTypes : List String := []
  isForm : Bool := false
  parameters : List Parameter := []
deriving Repr

/-- A declared response. -/
structure Response where
  /-- The status code, `0` for the response that stands for all others. -/
  code : String
  message : String := ""
  /-- Whether the operation returns this response. -/
  isDefault : Bool := false
  dataType : Option String := none
  baseType : Option String := none
  container : ContainerKind := .none
  simpleType : Bool := false
  primitiveType : Bool := false
  isBinary : Bool := false
  isFile : Bool := false
  isModel : Bool := false
  contentType : Option String := none
  schema : Option Property := none
  headers : List Property := []
  hasMore : Bool := false
  extensions : Entries Json := []
deriving Repr

/-- An operation, described for code generation. -/
structure Operation where
  path : String
  method : HttpMethod
  operationId : String
  summary : Option String := none
  notes : Option String := none
  deprecated : Bool := false
  tags : List String := []
  /-- All parameters. -/
  allParams : List Parameter := []
  bodyParams : List Parameter := []
  pathParams : List Parameter := []
  queryParams : List Parameter := []
  headerParams : List Parameter := []
  cookieParams : List Parameter := []
  formParams : List Parameter := []
  requiredParams : List Parameter := []
  /-- The body parameter of the first content that is no form. -/
  bodyParam : Option Parameter := none
  contents : List Content := []
  consumes : List String := []
  produces : List String := []
  responses : List Response := []
  responseHeaders : List Property := []
  returnType : Option String := none
  returnBaseType : Option String := none
  returnContainer : ContainerKind := .none
  returnSimpleType : Bool := false
  returnTypeIsPrimitive : Bool := false
  discriminator : Option Discriminator := none
  hasReference : Bool := false
  hasParams : Bool := false
  hasRequiredParams : Bool := false
  hasOptionalParams : Bool := false
  /-- The path with examples in place of its parameters. -/
  testPath : String := ""
  /-- The names of the security schemes that protect the operation. -/
  security : List String := []
  imports : List String := []
  extensions : Entries Json := []
deriving Repr

/-- The response that the operation returns. -/
def Operation.defaultResponse? (o : Operation) : Option Response :=
  o.responses.find? (·.isDefault)

end ApiResolution
