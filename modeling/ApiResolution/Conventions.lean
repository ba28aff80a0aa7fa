import ApiResolution.Identifier
import ApiResolution.Json.Printer
import ApiResolution.Model
import ApiResolution.Operation
import ApiResolution.TypeTag

/-!
The conventions of a target language: how names are made, which words are reserved, how types,
containers and literals are written, and what is done to finished members and parameters. Every
convention has a neutral default that builds on the conventions before it, so a language states only
where it differs.
-/

namespace ApiResolution

/-- A value as text: a text is itself, every other value its compact JSON text. -/
def plainText : Json → String
  | .string s => s
  | j => j.text

/-- The type names that are primitive by default. -/
def defaultPrimitives : List String :=
  ["string", "integer", "long", "number", "float", "double", "BigDecimal", "boolean", "date",
    "DateTime", "UUID", "email", "binary", "file", "ByteArray", "object"]

/-- The text with a backslash before every quote and backslash. -/
def escapeQuoted (s : String) : String :=
  String.ofList (s.toList.flatMap fun c => if c = '\\' ∨ c = '"' then ['\\', c] else [c])

/-- A text between quotes. -/
def betweenQuotes (s : String) : String := "\"" ++ s ++ "\""

/-- The literal of an enum value: scalars other than texts are written plainly, texts are quoted and
escaped, and lists and objects are quoted as they are. -/
def enumLiteral : Json → String
  | .number n => n.text
  | .bool b => if b then "true" else "false"
  | .null => "null"
  | .string s => betweenQuotes (escapeQuoted s)
  | j => betweenQuotes j.text

/-- The declaration of a container of some type. -/
def declareContainer (container : ContainerKind) (inner : String) : String :=
  match container with
  | .array => "array<" ++ inner ++ ">"
  | .map => "map<string, " ++ inner ++ ">"
  | .none => inner

/-- The example of a parameter by its type. -/
def exampleByFlags (p : Parameter) : String :=
  let f := p.flags
  if f.isUuid then "38400000-8cf0-11bd-b23e-10b96e4ef00d"
  else if f.isDateTime then "2013-10-20T19:20:30+01:00"
  else if f.isDate then "2013-10-20"
  else if f.isFile then "/path/to/file.txt"
  else if f.isBinary then "BINARY_DATA_HERE"
  else if f.isByteArray then "B"
  else if f.isBoolean then "true"
  else if f.isLong then "789"
  else if f.isInteger then "56"
  else if f.isFloat then "3.4"
  else if f.isDouble || f.isNumber || f.isBigDecimal then "1.2"
  else if f.isString then p.paramName ++ "_example"
  else "null"

/-- Whether a text starts with an ASCII digit. -/
def startsWithDigit (s : String) : Bool :=
  match s.toList with
  | c :: _ => c.isDigit
  | [] => false

/-- The conventions of a target language. -/
structure Conventions where
  /-- Whether identifiers may hold letters and digits beyond ASCII. -/
  unicodeIdentifiers : Bool := false
  /-- Drops what identifiers may not hold. -/
  sanitize : String → String := Identifier.sanitize unicodeIdentifiers
  /-- The reserved words; case does not count. -/
  reservedWords : List String := []
  /-- Whether a name is reserved. -/
  isReserved : String → Bool := fun name =>
    reservedWords.any fun w => Text.toLower w == Text.toLower name
  /-- What a reserved name becomes. -/
  escapeReserved : String → String := fun name => "_" ++ name
  /-- The type name of a schema name. -/
  modelName : String → String := fun name =>
    let camel := Identifier.upperCamel (sanitize name)
    if isReserved camel then escapeReserved camel else camel
  /-- The member name of a property name. -/
  varName : String → String := fun name =>
    let clean := sanitize name
    if isReserved clean then escapeReserved clean else clean
  /-- The name of a parameter. -/
  paramName : String → String := varName
  /-- The group of a tag. -/
  tagName : String → String := fun tag =>
    let camel := Identifier.upperCamel (sanitize tag)
    if startsWithDigit camel then "Class" ++ camel else camel
  /-- The name of an operation; empty when nothing of it may stay. -/
  operationName : String → String := fun id =>
    let camel := Identifier.lowerCamel (sanitize id)
    if isReserved camel then escapeReserved camel else camel
  /-- The type name of an enum that is written in place. -/
  enumName : Property → String := fun p => Identifier.capitalize p.name ++ "Enum"
  /-- The name of an enum member, from the text of its value and the type of the enum. -/
  enumMemberName : String → String → String := fun name _ =>
    if name.isEmpty then "empty"
    else
      let clean := sanitize name
      if clean.isEmpty then "value" else if startsWithDigit clean then "_" ++ clean else clean
  /-- The literal of an enum value, from the value and the type of the enum. -/
  enumValueLiteral : Json → String → String := fun value _ => enumLiteral value
  /-- A default value that is an enum member, from the member and the enum type. -/
  enumDefault : String → String → String := fun member enum => enum ++ "." ++ member
  /-- The type name of a type. -/
  typeName : TypeTag → String := fun tag =>
    match tag with
    | .reference name => modelName name
    | tag => tag.keyword
  /-- Whether a type name is primitive. -/
  isPrimitive : String → Bool := fun name => defaultPrimitives.contains name
  /-- The declaration of a container. -/
  containerDeclaration : ContainerKind → String → String := declareContainer
  /-- The type that makes a new container. -/
  instantiation : ContainerKind → String → Option String := fun container inner =>
    match container with
    | .none => none
    | container => some (containerDeclaration container inner)
  /-- The default value of a schema as text. -/
  defaultText : Schema → Option String := fun s => s.defaultValue.map plainText
  /-- The example of a schema as text. -/
  exampleText : Schema → Option String := fun s => s.exampleValue.map plainText
  /-- The example of a parameter that has none. -/
  parameterExample : Parameter → String := exampleByFlags
  /-- What is done to each member of a model when its members are complete. -/
  finishProperty : Model → Property → Property := fun _ p => p
  /-- What is done to each parameter when it is complete. -/
  finishParameter : Parameter → Parameter := fun p => p
  /-- The libraries that may be selected; any library when there are none. -/
  supportedLibraries : List String := []

/-- The neutral conventions. -/
def Conventions.neutral (unicodeIdentifiers : Bool) : Conventions := { unicodeIdentifiers }

end ApiResolution
