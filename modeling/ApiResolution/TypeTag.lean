import ApiResolution.Property
import ApiResolution.Reference

/-!
Type tags name the type of a schema node in one word. A reference is tagged with the name that it
refers to, a composed schema with the model name that it declares, and what has no word of its own
is an object.
-/

namespace ApiResolution

/-- The type of a schema node. -/
inductive TypeTag where
  | string
  | integer
  | long
  | number
  | float
  | double
  | bigDecimal
  | boolean
  | date
  | dateTime
  | uuid
  | email
  | binary
  | file
  | byteArray
  | array
  | map
  | object
  | reference (name : String)
deriving DecidableEq, Repr

namespace TypeTag

/-- The word that names a type; a reference is named by what it refers to. -/
def keyword : TypeTag → String
  | string => "string"
  | integer => "integer"
  | long => "long"
  | number => "number"
  | float => "float"
  | double => "double"
  | bigDecimal => "BigDecimal"
  | boolean => "boolean"
  | date => "date"
  | dateTime => "DateTime"
  | uuid => "UUID"
  | email => "email"
  | binary => "binary"
  | file => "file"
  | byteArray => "ByteArray"
  | array => "array"
  | map => "map"
  | object => "object"
  | reference name => name

/-- The name that a reference refers to. -/
def reference? : TypeTag → Option String
  | reference name => some name
  | _ => none

/-- Whether the type is an array or a map. -/
def isContainer : TypeTag → Bool
  | array => true
  | map => true
  | _ => false

/-- Whether the type is an integer type, whose bounds are integers. -/
def isIntegral : TypeTag → Bool
  | integer => true
  | long => true
  | _ => false

/-- The flags that follow from the type alone. -/
def flags : TypeTag → TypeFlags
  | string => { isString := true }
  | integer => { isNumeric := true, isInteger := true }
  | long => { isNumeric := true, isLong := true }
  | number => { isNumeric := true, isNumber := true }
  | float => { isNumeric := true, isFloat := true }
  | double => { isNumeric := true, isDouble := true }
  | bigDecimal => { isNumeric := true, isBigDecimal := true }
  | boolean => { isBoolean := true }
  | date => { isDate := true }
  | dateTime => { isDateTime := true }
  | uuid => { isUuid := true, isString := true }
  | email => { isEmail := true, isString := true }
  | binary => { isBinary := true, isString := true }
  | file => { isFile := true, isBinary := true }
  | byteArray => { isByteArray := true, isString := true }
  | object => { isObject := true }
  | array => {}
  | map => {}
  | reference _ => {}

/-- The type of a text with a format. -/
def ofTextFormat : Option String → TypeTag
  | some "number" => bigDecimal
  | some "byte" => byteArray
  | some "binary" => binary
  | some "date" => date
  | some "date-time" => dateTime
  | some "uuid" => uuid
  | some "email" => email
  | _ => string

/-- The type of a scalar with a format. -/
def ofScalar (type : ScalarType) (format : Option String) : TypeTag :=
  match type with
  | .string => ofTextFormat format
  | .file => file
  | .boolean => boolean
  | .number =>
    match format with
    | some "float" => float
    | some "double" => double
    | _ => number
  | .integer =>
    match format with
    | some "int64" => long
    | _ => integer

end TypeTag

/-- The type of a schema, in a document with the address `self`. -/
def Schema.typeTag (self : Option String) (s : Schema) : TypeTag :=
  match s.shape with
  | .reference target =>
    let name := Reference.displayName target self
    if name.isEmpty then .object else .reference name
  | .scalar type => .ofScalar type s.format
  | .array _ => .array
  | .map .. => .map
  | .composed .. =>
    match s.extensionText? "x-model-name" with
    | some name => if name.isEmpty then .object else .reference name
    | none => .object
  | .object .. => .object
  | .any => .object

/-- The name that a schema refers to, if it is a reference. -/
def Schema.refName? (self : Option String) (s : Schema) : Option String :=
  match s.shape with
  | .reference _ => (s.typeTag self).reference?
  | _ => none

end ApiResolution
