import ApiResolution.Entries
import ApiResolution.Number

/-!
JSON values with the members of objects in the order in which they were written. `same` is equality
of values: it does not look at the order of members.
-/

namespace ApiResolution

/-- A JSON value. -/
inductive Json where
  | null
  | bool (b : Bool)
  | number (n : Number)
  | string (s : String)
  | array (items : List Json)
  | object (members : List (String × Json))
deriving Repr, Inhabited

namespace Json

/-- The integer as a value. -/
def ofInt (n : Int) : Json := number (.integer n)

/-- The natural number as a value. -/
def ofNat (n : Nat) : Json := ofInt n

/-- The text, or null when there is none. -/
def ofString? : Option String → Json
  | some s => string s
  | none => null

/-- A list of texts. -/
def strings (ss : List String) : Json := array (ss.map string)

/-- The text of a string value. -/
def string? : Json → Option String
  | string s => some s
  | _ => none

/-- The member named `key` of an object. -/
def member? (key : String) : Json → Option Json
  | object ms => Entries.lookup? key ms
  | _ => none

mutual

/-- Equality of values. Two objects are equal when they have the same number of members and equal
values under equal names; numbers are compared by `Number.same`. -/
def same : Json → Json → Bool
  | null, null => true
  | bool a, bool b => a == b
  | number m, number n => m.same n
  | string s, string t => s == t
  | array xs, array ys => sameItems xs ys
  | object ms, object ns => ms.length == ns.length && sameMembers ms ns
  | _, _ => false

/-- Equality of two lists of values. -/
def sameItems : List Json → List Json → Bool
  | [], [] => true
  | x :: xs, y :: ys => same x y && sameItems xs ys
  | _, _ => false

/-- Whether each member of the first object is found in the second with an equal value. -/
def sameMembers : List (String × Json) → List (String × Json) → Bool
  | [], _ => true
  | (k, v) :: ms, ns =>
    (match Entries.lookup? k ns with
      | some w => same v w
      | none => false) && sameMembers ms ns

end

end Json
end ApiResolution
