import ApiResolution.Json

/-!
Building objects: members that are left out when there is nothing to write, and members that are
null instead.
-/

namespace ApiResolution

/-- The object of groups of members. -/
def objectOf (groups : List (List (String × Json))) : Json := .object groups.flatten

/-- A member that is always written. -/
def member (name : String) (value : Json) : List (String × Json) := [(name, value)]

/-- A member that is written only when there is a value. -/
def optionalMember {α : Type} (name : String) (write : α → Json) : Option α → List (String × Json)
  | some x => [(name, write x)]
  | none => []

/-- The written form of an optional value: null when it is absent. -/
def nullable {α : Type} (write : α → Json) : Option α → Json
  | some x => write x
  | none => .null

/-- The JSON object of named values. -/
def entriesJson {α : Type} (write : α → Json) (es : Entries α) : Json :=
  .object (Entries.mapValues write es)

/-- The JSON list of values. -/
def listJson {α : Type} (write : α → Json) (xs : List α) : Json := .array (xs.map write)

/-- A member for named values that is written only when there are any. -/
def entriesMember {α : Type} (name : String) (write : α → Json) (es : Entries α) :
    List (String × Json) :=
  if es.isEmpty then [] else [(name, entriesJson write es)]

/-- A member for a list that is written only when it has elements. -/
def listMember {α : Type} (name : String) (write : α → Json) (xs : List α) :
    List (String × Json) :=
  if xs.isEmpty then [] else [(name, listJson write xs)]

/-- A member for a text that is written only when the text is not empty. -/
def textMember (name text : String) : List (String × Json) :=
  if text.isEmpty then [] else [(name, .string text)]

end ApiResolution
