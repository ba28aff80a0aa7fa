import ApiResolution.Json.Member
import ApiResolution.Property

/-!
The JSON form of properties.
-/

namespace ApiResolution

/-- The JSON form of the flags of a type. -/
def TypeFlags.toJson (f : TypeFlags) : Json :=
  .object [
    ("is_string", .bool f.isString),
    ("is_numeric", .bool f.isNumeric),
    ("is_integer", .bool f.isInteger),
    ("is_long", .bool f.isLong),
    ("is_number", .bool f.isNumber),
    ("is_float", .bool f.isFloat),
    ("is_double", .bool f.isDouble),
    ("is_big_decimal", .bool f.isBigDecimal),
    ("is_boolean", .bool f.isBoolean),
    ("is_date", .bool f.isDate),
    ("is_date_time", .bool f.isDateTime),
    ("is_uuid", .bool f.isUuid),
    ("is_email", .bool f.isEmail),
    ("is_binary", .bool f.isBinary),
    ("is_byte_array", .bool f.isByteArray),
    ("is_file", .bool f.isFile),
    ("is_object", .bool f.isObject),
    ("is_primitive_type", .bool f.isPrimitiveType)]

/-- The JSON form of constraints. -/
def Validation.toJson (v : Validation) : Json :=
  .object [
    ("minimum", .ofString? v.minimum),
    ("maximum", .ofString? v.maximum),
    ("exclusive_minimum", .bool v.exclusiveMinimum),
    ("exclusive_maximum", .bool v.exclusiveMaximum),
    ("min_length", nullable .ofNat v.minLength),
    ("max_length", nullable .ofNat v.maxLength),
    ("pattern", .ofString? v.pattern),
    ("min_items", nullable .ofNat v.minItems),
    ("max_items", nullable .ofNat v.maxItems),
    ("unique_items", .bool v.uniqueItems),
    ("multiple_of", .ofString? v.multipleOf)]

/-- The JSON form of an enum member. -/
def EnumMember.toJson (m : EnumMember) : Json :=
  .object [("name", .string m.name), ("value", .string m.literal)]

/-- The JSON form of the values of an enum. -/
def EnumValues.toJson (e : EnumValues) : Json :=
  .object (("values", .array e.values) :: listMember "enum_vars" EnumMember.toJson e.members)

namespace PropertyFacts

/-- The members before the items. -/
def leadingMembers (p : PropertyFacts) : List (String × Json) :=
  List.flatten [
    member "name" (.string p.name),
    member "base_name" (.string p.baseName),
    member "base_type" (.string p.baseType),
    member "datatype" (.string p.datatype),
    member "datatype_with_enum" (.string p.datatypeWithEnum),
    optionalMember "enum_name" .string p.enumName,
    optionalMember "complex_type" .string p.complexType,
    member "container" (.string p.container.keyword)]

/-- The members after the items. -/
def closingMembers (p : PropertyFacts) : List (String × Json) :=
  List.flatten [
    optionalMember "title" .string p.title,
    optionalMember "description" .string p.description,
    member "required" (.bool p.required),
    member "nullable" (.bool p.nullable),
    member "read_only" (.bool p.readOnly),
    member "write_only" (.bool p.writeOnly),
    member "is_enum" (.bool p.isEnum),
    optionalMember "allowable_values" EnumValues.toJson p.enumValues,
    optionalMember "default_value" .string p.defaultText,
    optionalMember "example" .string p.exampleText,
    member "validation" p.validation.toJson,
    member "has_validation" (.bool p.hasValidation),
    member "flags" p.flags.toJson,
    optionalMember "composed_model" .string p.composedModel,
    member "has_more" (.bool p.hasMore),
    entriesMember "extensions" id p.extensions]

end PropertyFacts

/-- The JSON form of a property. -/
def Property.toJson : Property → Json
  | ⟨facts, none⟩ => .object (facts.leadingMembers ++ facts.closingMembers)
  | ⟨facts, some items⟩ =>
    .object (facts.leadingMembers ++ [("items", items.toJson)] ++ facts.closingMembers)

end ApiResolution
