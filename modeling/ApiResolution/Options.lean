import ApiResolution.Failure
import ApiResolution.Json.Member
import ApiResolution.Text.Case
import ApiResolution.Text.Letter
import ApiResolution.Yaml.Slot

/-!
The options of a resolution. They come from a text, where every option is one field, or from named
values, which are applied one after the other; the values before one that is refused stay applied.
-/

namespace ApiResolution

open Yaml (Slot)

/-- What a resolution is asked to do. -/
structure Options where
  /-- A combined model names its parent and also lists the inherited members. -/
  supportsInheritance : Bool := false
  /-- Without inheritance, a combined model has no parent and leaves out its interfaces' members. -/
  supportsMixins : Bool := false
  /-- Required parameters come first. -/
  sortParamsByRequired : Bool := true
  /-- Parameters of one content get different names. -/
  ensureUniqueParams : Bool := true
  /-- Identifiers may hold letters and digits beyond ASCII. -/
  allowUnicodeIdentifiers : Bool := false
  /-- The names of operations lose their first word. -/
  removeOperationIdPrefix : Bool := false
  /-- Schemas whose names differ only by case are renamed. -/
  checkDuplicatedModelName : Bool := false
  library : Option String := none
deriving DecidableEq, Repr

namespace Options

/-- The truth value of an option: a truth value or one of the words `true` and `false`. -/
def flag (option : String) : Json → Except Failure Bool
  | .bool b => .ok b
  | .string s =>
    match Text.toLowerAscii (Text.trim s) with
    | "true" => .ok true
    | "false" => .ok false
    | _ => .error (.flagExpected option (.string s))
  | j => .error (.flagExpected option j)

/-- The library that a value selects; null and the empty text select none. -/
def libraryChoice (option : String) : Json → Except Failure (Option String)
  | .null => .ok none
  | .string s => .ok (if s.isEmpty then none else some s)
  | j => .error (.textExpected option j)

/-- Applies one named value; unknown names are ignored. -/
def set (o : Options) (name : String) (value : Json) : Except Failure Options :=
  match name with
  | "supportsInheritance" => (flag name value).map fun b => { o with supportsInheritance := b }
  | "supportsMixins" => (flag name value).map fun b => { o with supportsMixins := b }
  | "sortParamsByRequiredFlag" => (flag name value).map fun b => { o with sortParamsByRequired := b }
  | "ensureUniqueParams" => (flag name value).map fun b => { o with ensureUniqueParams := b }
  | "allowUnicodeIdentifiers" =>
    (flag name value).map fun b => { o with allowUnicodeIdentifiers := b }
  | "removeOperationIdPrefix" =>
    (flag name value).map fun b => { o with removeOperationIdPrefix := b }
  | "checkDuplicatedModelName" =>
    (flag name value).map fun b => { o with checkDuplicatedModelName := b }
  | "library" => (libraryChoice name value).map fun l => { o with library := l }
  | _ => .ok o

/-- The options after named values, and the failure that stopped their application, if any. -/
def applyEach (o : Options) : Entries Json → Options × Option Failure
  | [] => (o, none)
  | (name, value) :: rest =>
    match o.set name value with
    | .ok next => next.applyEach rest
    | .error failure => (o, some failure)

/-- Applies named values in order. -/
def apply (o : Options) (values : Entries Json) : Except Failure Options :=
  match o.applyEach values with
  | (result, none) => .ok result
  | (_, some failure) => .error failure

/-- The options of named values. -/
def ofValues (values : Entries Json) : Except Failure Options := apply {} values

/-- The names of the fields. -/
def names : List String :=
  ["supportsInheritance", "supportsMixins", "sortParamsByRequiredFlag", "ensureUniqueParams",
    "allowUnicodeIdentifiers", "removeOperationIdPrefix", "checkDuplicatedModelName", "library"]

/-- Reads options; a missing field keeps its default. -/
def read? (source : Source) : Option Options := do
  let ms ← source.record? names
  let flagOf := fun name missing => Source.field? ms name missing Source.bool?
  let supportsInheritance ← flagOf "supportsInheritance" false
  let supportsMixins ← flagOf "supportsMixins" false
  let sortParamsByRequired ← flagOf "sortParamsByRequiredFlag" true
  let ensureUniqueParams ← flagOf "ensureUniqueParams" true
  let allowUnicodeIdentifiers ← flagOf "allowUnicodeIdentifiers" false
  let removeOperationIdPrefix ← flagOf "removeOperationIdPrefix" false
  let checkDuplicatedModelName ← flagOf "checkDuplicatedModelName" false
  let library ← Source.optionalField? ms "library" Source.string?
  return { supportsInheritance, supportsMixins, sortParamsByRequired, ensureUniqueParams
           allowUnicodeIdentifiers, removeOperationIdPrefix, checkDuplicatedModelName, library }

/-- The options of a JSON object. -/
def ofJson? (j : Json) : Option Options := read? (.ofJson j)

/-- What options in YAML are read as. -/
def slot : Slot :=
  .record (names.map fun name => (name, if name = "library" then .optional .text else .flag))

/-- The options of a text in YAML, which covers JSON; a blank text gives the defaults. -/
def parse (text : String) : Except Failure Options :=
  if (Text.trim text).isEmpty then .ok {}
  else
    match (slot.readText? text).bind read? with
    | some o => .ok o
    | none => .error .unreadableOptions

/-- Checks the selected library against those that may be selected; none stands for any. -/
def checkLibrary (o : Options) (supported : List String) : Except Failure Unit :=
  match o.library with
  | none => .ok ()
  | some library =>
    if supported.isEmpty || supported.contains library then .ok ()
    else .error (.unknownLibrary library supported)

/-- The JSON form of options. -/
def toJson (o : Options) : Json :=
  objectOf [
    member "supportsInheritance" (.bool o.supportsInheritance),
    member "supportsMixins" (.bool o.supportsMixins),
    member "sortParamsByRequiredFlag" (.bool o.sortParamsByRequired),
    member "ensureUniqueParams" (.bool o.ensureUniqueParams),
    member "allowUnicodeIdentifiers" (.bool o.allowUnicodeIdentifiers),
    member "removeOperationIdPrefix" (.bool o.removeOperationIdPrefix),
    member "checkDuplicatedModelName" (.bool o.checkDuplicatedModelName),
    optionalMember "library" .string o.library]

end Options
end ApiResolution
