import ApiResolution.Json.Printer
import ApiResolution.Operation

/-!
Failures end a resolution. Everything that can be recovered from is a diagnostic instead. `message`
is the wording of a failure; a text that cannot be read at all has none of its own.
-/

namespace ApiResolution

/-- Why a resolution ends without a result. -/
inductive Failure where
  /-- The document, or a part of it, has the wrong form. -/
  | unreadableDocument
  /-- The text of the options has the wrong form. -/
  | unreadableOptions
  /-- An option takes a truth value and got something else. -/
  | flagExpected (option : String) (value : Json)
  /-- An option takes a text and got something else. -/
  | textExpected (option : String) (value : Json)
  /-- The selected library is not among those that may be selected. -/
  | unknownLibrary (library : String) (supported : List String)
  /-- Nothing is left of the name of an operation. -/
  | noOperationName (method : HttpMethod) (path name : String)
  /-- An OAuth 2 scheme has no flow. -/
  | noFlow (scheme : String)
deriving Repr

/-- The parts of a run in which a failure may arise. -/
inductive FailureKind where
  | parse
  | config
  | resolution
  | security
deriving DecidableEq, Repr

namespace Failure

/-- The part of the run in which a failure arises. -/
def kind : Failure → FailureKind
  | unreadableDocument => .parse
  | unreadableOptions => .config
  | flagExpected .. => .config
  | textExpected .. => .config
  | unknownLibrary .. => .config
  | noOperationName .. => .resolution
  | noFlow _ => .security

/-- A value in the message of a failure: a text between apostrophes, any other value as JSON. -/
def shown : Json → String
  | .string s => "'" ++ s ++ "'"
  | j => j.text

/-- The wording of a failure. -/
def message? : Failure → Option String
  | unreadableDocument => none
  | unreadableOptions => none
  | flagExpected option value =>
    some ("Config Error: Option '" ++ option ++ "' expects a boolean, got " ++ shown value)
  | textExpected option value =>
    some ("Config Error: Option '" ++ option ++ "' must be a string, got " ++ value.text)
  | unknownLibrary library supported =>
    some ("Config Error: Unknown library: " ++ library ++ "\nAvailable libraries:\n  " ++
      "\n  ".intercalate supported)
  | noOperationName method path name =>
    some ("Resolution Error: Cannot derive an operation identifier for " ++ method.word ++ " " ++
      path ++ " from '" ++ name ++ "'")
  | noFlow scheme => some ("Security Error: OAuth2 scheme '" ++ scheme ++ "' declares no flow")

end Failure
end ApiResolution
