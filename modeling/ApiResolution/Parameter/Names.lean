import ApiResolution.Identifier
import ApiResolution.Operation

/-!
The names and the order of parameters in a list.
-/

namespace ApiResolution
namespace Identifier

/-- The first name from a name on that is not taken, among `rest` of them. -/
def freeFrom (isTaken : String → Bool) : Nat → String → String
  | 0, name => name
  | rest + 1, name => if isTaken name then freeFrom isTaken rest (nextName name) else name

end Identifier

namespace Parameter

/-- Gives parameters names outside `taken` and different from each other: one whose name is taken
gets the next free one. -/
def renameFrom (taken : List String) : List Parameter → List Parameter
  | [] => []
  | p :: ps =>
    let name := Identifier.freeFrom taken.contains (taken.length + 1) p.paramName
    { p with paramName := name } :: renameFrom (name :: taken) ps

/-- Gives the parameters of a list different names. -/
def ensureUnique (ps : List Parameter) : List Parameter := renameFrom [] ps

/-- Required parameters first, each group in its order. -/
def requiredFirst (ps : List Parameter) : List Parameter :=
  ps.filter (·.required) ++ ps.filter (!·.required)

end Parameter
end ApiResolution
