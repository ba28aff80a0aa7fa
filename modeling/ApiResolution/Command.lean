import ApiResolution.Resolution.Writer
import ApiResolution.Yaml.Printer

/-!
The commands: to resolve a document and print the resolution as JSON or YAML, and to list its
models. A command is a function of the texts that were read and the words that were given; what goes
wrong first is reported.
-/

namespace ApiResolution

/-- The text of a file, or why it could not be read. -/
abbrev FileText := Except String String

/-- What goes wrong in a command. -/
inductive CommandFailure where
  /-- A word is no `key=value`. -/
  | noAssignment (word : String)
  /-- A file, named for what it holds, could not be read. -/
  | unreadableFile (content path reason : String)
  | failed (failure : Failure)
  /-- There are diagnostics, which were not allowed. -/
  | diagnosed (count : Nat)

namespace CommandFailure

/-- The wording of what went wrong. -/
def message? : CommandFailure → Option String
  | noAssignment word => some ("expected key=value, got '" ++ word ++ "'")
  | unreadableFile content path reason =>
    some ("Operation failed: Failed to read " ++ content ++ " " ++ Json.quote path ++ ": " ++ reason)
  | failed failure => failure.message?
  | diagnosed count => some ("Resolution recorded " ++ toString count ++ " diagnostic(s)")

end CommandFailure

/-- The forms in which a resolution is printed. -/
inductive OutputFormat where
  | json
  | yaml
deriving DecidableEq, Repr

/-- What a command is given. -/
structure CommandInput where
  documentPath : String
  document : FileText
  /-- The path and the text of the options, if they are in a file. -/
  config : Option (String × FileText) := none
  /-- The options given as `key=value`. -/
  assignments : List String := []

namespace Command

/-- Why a file that does not exist could not be read. -/
def missingFile : String := "No such file or directory (os error 2)"

/-- The key and the value of a word, without blanks around them. -/
def assignment (word : String) : Except CommandFailure (String × String) :=
  match word.toList.span (· != '=') with
  | (key, _ :: value) =>
    let key := Text.trim (String.ofList key)
    if key.isEmpty then .error (.noAssignment word)
    else .ok (key, Text.trim (String.ofList value))
  | (_, []) => .error (.noAssignment word)

/-- The options of a file, if there is one, with the given values applied to them. -/
def options (config : Option (String × FileText)) (values : List (String × String)) :
    Except CommandFailure Options := do
  let start ← match config with
    | none => .ok {}
    | some (path, .error reason) => .error (.unreadableFile "config" path reason)
    | some (_, .ok text) => (Options.parse text).mapError .failed
  (start.apply (Entries.mapValues Json.string (Entries.ofList values))).mapError .failed

/-- The resolution that a command is about. -/
def resolution (input : CommandInput) : Except CommandFailure Resolution := do
  let values ← input.assignments.mapM assignment
  let o ← options input.config values
  match input.document with
  | .error reason => .error (.unreadableFile "document" input.documentPath reason)
  | .ok text => (Resolution.ofText o text).mapError .failed

/-- The text of a resolution. -/
def render (format : OutputFormat) (r : Resolution) : String :=
  match format with
  | .json => r.toJson.pretty
  | .yaml => Yaml.text r.toJson

/-- Resolves a document and renders the resolution; diagnostics may be refused. -/
def resolve (input : CommandInput) (format : OutputFormat) (refuseDiagnostics : Bool) :
    Except CommandFailure String := do
  let r ← resolution input
  if refuseDiagnostics && !r.diagnostics.isEmpty then .error (.diagnosed r.diagnostics.length)
  else .ok (render format r)

/-- The kind of a model in a list of models. -/
def modelKind (m : Model) : String :=
  if m.isAlias then "alias"
  else if m.isEnum then "enum"
  else if m.isArray then "array"
  else if m.isMap then "map"
  else if m.isComposed then "composed"
  else "object"

/-- A line for each model. -/
def modelLines (r : Resolution) : List String :=
  r.models.map fun (name, m) => name ++ ": " ++ modelKind m

/-- Lists the models of a document. -/
def models (input : CommandInput) : Except CommandFailure (List String) :=
  (resolution input).map modelLines

end Command
end ApiResolution
