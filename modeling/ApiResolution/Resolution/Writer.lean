import ApiResolution.Model.Writer
import ApiResolution.Operation.Writer
import ApiResolution.Resolution
import ApiResolution.Security.Writer

/-!
The JSON form of resolutions.
-/

namespace ApiResolution

/-- The JSON form of a diagnostic. -/
def Diagnostic.toJson (d : Diagnostic) : Json :=
  .object [
    ("kind", .string d.kind.keyword),
    ("location", .string d.location),
    ("message", .string d.message)]

/-- The JSON form of a resolution. -/
def Resolution.toJson (r : Resolution) : Json :=
  .object [
    ("models", entriesJson Model.toJson r.models),
    ("operations", entriesJson (listJson Operation.toJson) r.operations),
    ("security", listJson SecurityScheme.toJson r.security),
    ("diagnostics", listJson Diagnostic.toJson r.diagnostics)]

end ApiResolution
