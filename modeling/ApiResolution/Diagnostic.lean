/-!
Diagnostics are conditions that resolution meets and recovers from. A computation hands its notes on
beside its value, so that no value depends on what was noted before; a `Log` turns notes into
diagnostics and reports each undefined schema once.
-/

namespace ApiResolution

/-- The kinds of recoverable conditions. -/
inductive DiagnosticKind where
  /-- A reference names something that does not exist. -/
  | unresolvedReference
  /-- An array has no item schema. -/
  | missingArrayItems
  /-- A parameter, body or header has no schema. -/
  | missingSchema
  /-- An operation without a name got one made from its path. -/
  | synthesizedOperationId
  /-- The name of an operation is taken in its group. -/
  | duplicateOperationId
  /-- The names of two models differ only by case. -/
  | duplicateModelName
  /-- A model and its ancestor are told apart by different properties. -/
  | discriminatorConflict
  /-- Containers are nested too deeply. -/
  | recursionLimit
  /-- The type of a security scheme is not known. -/
  | unsupportedSecurityScheme
deriving DecidableEq, Repr

/-- The word that names a kind. -/
def DiagnosticKind.keyword : DiagnosticKind → String
  | unresolvedReference => "unresolved-reference"
  | missingArrayItems => "missing-array-items"
  | missingSchema => "missing-schema"
  | synthesizedOperationId => "synthesized-operation-id"
  | duplicateOperationId => "duplicate-operation-id"
  | duplicateModelName => "duplicate-model-name"
  | discriminatorConflict => "discriminator-conflict"
  | recursionLimit => "recursion-limit"
  | unsupportedSecurityScheme => "unsupported-security-scheme"

/-- A recoverable condition, where it was met, and what happened. -/
structure Diagnostic where
  kind : DiagnosticKind
  location : String
  message : String
deriving DecidableEq, Repr

namespace Diagnostic

/-- The diagnostics of one kind, in order. -/
def ofKind (kind : DiagnosticKind) (ds : List Diagnostic) : List Diagnostic :=
  ds.filter fun d => d.kind == kind

/-- Whether there is a diagnostic of a kind. -/
def hasKind (kind : DiagnosticKind) (ds : List Diagnostic) : Bool :=
  ds.any fun d => d.kind == kind

end Diagnostic

/-- What a computation notes: a diagnostic, or a reference to a schema that is not defined. -/
inductive Note where
  | diagnostic (d : Diagnostic)
  | undefinedSchema (name target : String)
deriving DecidableEq, Repr

/-- The diagnostics so far and the undefined schemas that were reported. -/
structure Log where
  entries : List Diagnostic := []
  reported : List String := []
deriving DecidableEq, Repr

namespace Log

/-- Adds a note; an undefined schema is reported once. -/
def add (log : Log) : Note → Log
  | .diagnostic d => { log with entries := log.entries ++ [d] }
  | .undefinedSchema name target =>
    if log.reported.contains name then log
    else
      { entries := log.entries ++
          [⟨.unresolvedReference, target, "Schema '" ++ name ++ "' is not defined; keeping the name"⟩]
        reported := log.reported ++ [name] }

/-- Adds notes in order. -/
def addAll (log : Log) (notes : List Note) : Log := notes.foldl add log

/-- The log without its diagnostics; reported schemas stay reported. -/
def drained (log : Log) : Log := { log with entries := [] }

end Log

/-- A value with the notes made on the way to it. -/
structure Noted (α : Type) where
  value : α
  notes : List Note
deriving Repr

namespace Noted

variable {α β : Type}

instance : Monad Noted where
  pure a := ⟨a, []⟩
  bind x f := ⟨(f x.value).value, x.notes ++ (f x.value).notes⟩

@[simp] theorem value_pure (a : α) : (pure a : Noted α).value = a := rfl

@[simp] theorem notes_pure (a : α) : (pure a : Noted α).notes = [] := rfl

@[simp] theorem value_bind (x : Noted α) (f : α → Noted β) :
    (x >>= f).value = (f x.value).value := rfl

@[simp] theorem notes_bind (x : Noted α) (f : α → Noted β) :
    (x >>= f).notes = x.notes ++ (f x.value).notes := rfl

instance : LawfulMonad Noted := LawfulMonad.mk' Noted
  (fun x => congrArg (Noted.mk x.value) (List.append_nil x.notes))
  (fun _ _ => rfl)
  (fun _ _ _ => congrArg (Noted.mk _) (List.append_assoc ..))

@[simp] theorem value_map (f : α → β) (x : Noted α) : (f <$> x).value = f x.value := rfl

@[simp] theorem notes_map (f : α → β) (x : Noted α) : (f <$> x).notes = x.notes :=
  List.append_nil x.notes

/-- Notes a diagnostic. -/
def diagnose (kind : DiagnosticKind) (location message : String) : Noted Unit :=
  ⟨(), [.diagnostic ⟨kind, location, message⟩]⟩

/-- Notes a reference to a schema that is not defined. -/
def reportUndefined (name target : String) : Noted Unit :=
  ⟨(), [.undefinedSchema name target]⟩

/-- The values of a list of computations, run in order. -/
def mapList (f : α → Noted β) : List α → Noted (List β)
  | [] => pure []
  | a :: as => do
    let b ← f a
    let bs ← mapList f as
    return b :: bs

@[simp] theorem value_mapList (f : α → Noted β) (as : List α) :
    (mapList f as).value = as.map fun a => (f a).value := by
  induction as with
  | nil => rfl
  | cons a as ih => simp [mapList, ih]

/-- The values of those computations of a list that give one, run in order. -/
def filterMapList (f : α → Noted (Option β)) (as : List α) : Noted (List β) := do
  let bs ← mapList f as
  return bs.filterMap id

end Noted
end ApiResolution
