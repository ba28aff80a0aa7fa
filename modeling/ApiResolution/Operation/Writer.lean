import ApiResolution.Operation
import ApiResolution.Property.Writer
import ApiResolution.Schema.Writer

/-!
The JSON form of operations.
-/

namespace ApiResolution

/-- The JSON form of a parameter. -/
def Parameter.toJson (p : Parameter) : Json :=
  objectOf [
    member "base_name" (.string p.baseName),
    member "param_name" (.string p.paramName),
    optionalMember "description" .string p.description,
    member "location" (.ofString? (p.location.map (·.keyword))),
    member "data_type" (.string p.dataType),
    optionalMember "data_format" .string p.dataFormat,
    optionalMember "base_type" .string p.baseType,
    optionalMember "datatype_with_enum" .string p.datatypeWithEnum,
    optionalMember "enum_name" .string p.enumName,
    member "required" (.bool p.required),
    member "nullable" (.bool p.nullable),
    member "deprecated" (.bool p.deprecated),
    member "is_multipart" (.bool p.isMultipart),
    member "is_model" (.bool p.isModel),
    member "container" (.string p.container.keyword),
    optionalMember "items" Property.toJson p.items,
    optionalMember "collection_format" (fun f => .string f.keyword) p.collectionFormat,
    member "is_enum" (.bool p.isEnum),
    optionalMember "allowable_values" EnumValues.toJson p.enumValues,
    optionalMember "default_value" .string p.defaultText,
    optionalMember "example" .string p.exampleText,
    member "validation" p.validation.toJson,
    member "has_validation" (.bool p.hasValidation),
    member "flags" p.flags.toJson,
    optionalMember "content_type" .string p.contentType,
    member "has_more" (.bool p.hasMore),
    entriesMember "extensions" id p.extensions]

/-- The JSON form of a content. -/
def Content.toJson (c : Content) : Json :=
  .object [
    ("content_types", .strings c.contentTypes),
    ("is_form", .bool c.isForm),
    ("parameters", listJson Parameter.toJson c.parameters)]

/-- The JSON form of a response. -/
def Response.toJson (r : Response) : Json :=
  objectOf [
    member "code" (.string r.code),
    member "message" (.string r.message),
    member "is_default" (.bool r.isDefault),
    optionalMember "data_type" .string r.dataType,
    optionalMember "base_type" .string r.baseType,
    member "container" (.string r.container.keyword),
    member "simple_type" (.bool r.simpleType),
    member "primitive_type" (.bool r.primitiveType),
    member "is_binary" (.bool r.isBinary),
    member "is_file" (.bool r.isFile),
    member "is_model" (.bool r.isModel),
    optionalMember "content_type" .string r.contentType,
    optionalMember "schema" Property.toJson r.schema,
    member "headers" (listJson Property.toJson r.headers),
    member "has_more" (.bool r.hasMore),
    entriesMember "extensions" id r.extensions]

/-- The JSON form of an operation. -/
def Operation.toJson (o : Operation) : Json :=
  let params := listJson Parameter.toJson
  objectOf [
    member "path" (.string o.path),
    member "http_method" (.string o.method.word),
    member "operation_id" (.string o.operationId),
    optionalMember "summary" .string o.summary,
    optionalMember "notes" .string o.notes,
    member "deprecated" (.bool o.deprecated),
    member "tags" (.strings o.tags),
    member "all_params" (params o.allParams),
    member "body_params" (params o.bodyParams),
    member "path_params" (params o.pathParams),
    member "query_params" (params o.queryParams),
    member "header_params" (params o.headerParams),
    member "cookie_params" (params o.cookieParams),
    member "form_params" (params o.formParams),
    member "required_params" (params o.requiredParams),
    optionalMember "body_param" Parameter.toJson o.bodyParam,
    member "contents" (listJson Content.toJson o.contents),
    member "consumes" (.strings o.consumes),
    member "produces" (.strings o.produces),
    member "responses" (listJson Response.toJson o.responses),
    member "response_headers" (listJson Property.toJson o.responseHeaders),
    optionalMember "return_type" .string o.returnType,
    optionalMember "return_base_type" .string o.returnBaseType,
    member "return_container" (.string o.returnContainer.keyword),
    member "return_simple_type" (.bool o.returnSimpleType),
    member "return_type_is_primitive" (.bool o.returnTypeIsPrimitive),
    optionalMember "discriminator" Discriminator.toJson o.discriminator,
    member "has_reference" (.bool o.hasReference),
    member "has_params" (.bool o.hasParams),
    member "has_required_params" (.bool o.hasRequiredParams),
    member "has_optional_params" (.bool o.hasOptionalParams),
    member "test_path" (.string o.testPath),
    member "security" (.strings o.security),
    member "imports" (.strings o.imports),
    entriesMember "extensions" id o.extensions]

end ApiResolution
