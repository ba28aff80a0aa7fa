import ApiResolution.Document.Reader
import ApiResolution.Document.Renaming
import ApiResolution.Model.OfDocument
import ApiResolution.Operation.Buckets
import ApiResolution.Security.OfDocument

/-!
Resolution turns a document into models, operations and security schemes for code generation. It
fails for a library that is not supported, for an operation of whose name nothing is left and for an
OAuth 2 scheme without flows, in this order of precedence; all else is noted.
-/

namespace ApiResolution

/-- What a document is resolved into. -/
structure Resolution where
  models : ModelMap
  operations : Buckets
  security : List SecurityScheme
  diagnostics : List Diagnostic := []

namespace Resolution

/-- The operation of a name, in the first bucket that has it. -/
def operation? (r : Resolution) (name : String) : Option Operation :=
  (Entries.values r.operations).flatten.find? fun o => o.operationId == name

/-- The number of operations in all buckets. -/
def operationCount (r : Resolution) : Nat := (Entries.values r.operations).flatten.length

/-- The document with distinct names of schemas, if that is asked for. Each new name is noted. -/
def distinctNames (o : Options) (d : Document) : Noted Document :=
  if o.checkDuplicatedModelName then do
    let _ ← Noted.mapList (fun (old, new) =>
      Noted.diagnose .duplicateModelName old
        ("Model '" ++ old ++ "' differs from another only by case; renamed to '" ++ new ++ "'"))
      d.renames
    return d.withDistinctNames
  else pure d

/-- The parts of a resolution, with all notes. -/
def parts (o : Options) (v : Conventions) (d : Document) : Noted (Except Failure Resolution) := do
  let document ← distinctNames o d
  let c : Context := ⟨o, v, document⟩
  let models ← ModelMap.ofDocument c
  match ← Buckets.ofDocument c models with
  | .error failure => return .error failure
  | .ok operations => do
    match ← SecurityScheme.ofDocument document with
    | .error failure => return .error failure
    | .ok security => return .ok { models, operations, security }

/-- Resolves a document. -/
def ofDocument (o : Options) (v : Conventions) (d : Document) : Except Failure Resolution :=
  match o.checkLibrary v.supportedLibraries with
  | .error failure => .error failure
  | .ok () =>
    let run := parts o v d
    run.value.map fun r => { r with diagnostics := (Log.addAll {} run.notes).entries }

/-- Resolves the document of a text by the neutral conventions. -/
def ofText (o : Options) (text : String) : Except Failure Resolution :=
  match Document.parse? text with
  | none => .error .unreadableDocument
  | some d => ofDocument o (.neutral o.allowUnicodeIdentifiers) d

end Resolution
end ApiResolution
