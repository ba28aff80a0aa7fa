import ApiResolution.Json

/-!
The tree from which documents are read: JSON values, and beside them what only other formats can
say. The keys of a mapping need not be texts, and a value may be one that JSON has no word for.

A record is a mapping whose names are its fields. A count as a key means the field at that place,
and a sequence gives the first fields in order.
-/

namespace ApiResolution

/-- The key of an entry: a text, a count, or any other value. -/
inductive Key where
  | name (s : String)
  | place (n : Nat)
  | other
deriving DecidableEq, Repr

/-- A tree of scalars, sequences and mappings. `void` is a value that is present but that JSON can
write only as null, such as an infinity. -/
inductive Source where
  | null
  | void
  | bool (b : Bool)
  | number (n : Number)
  | string (s : String)
  | sequence (items : List Source)
  | mapping (entries : List (Key × Source))
deriving Repr, Inhabited

namespace Key

/-- The text of a key. -/
def name? : Key → Option String
  | name s => some s
  | _ => none

/-- The field of a record that a key means: `none` when the key is refused, `some none` when there
is no field at its place. -/
def field? (fields : List String) : Key → Option (Option String)
  | name s => some (some s)
  | place n => some fields[n]?
  | other => none

end Key

namespace Source

mutual

/-- The tree of a JSON value. -/
def ofJson : Json → Source
  | .null => null
  | .bool b => bool b
  | .number n => number n
  | .string s => string s
  | .array xs => sequence (ofItems xs)
  | .object ms => mapping (ofMembers ms)

/-- The trees of JSON values. -/
def ofItems : List Json → List Source
  | [] => []
  | x :: xs => ofJson x :: ofItems xs

/-- The entries of the members of a JSON object. -/
def ofMembers : List (String × Json) → List (Key × Source)
  | [] => []
  | (k, v) :: ms => (.name k, ofJson v) :: ofMembers ms

end

/-- Whether the tree stands for an absent value. -/
def isNull : Source → Bool
  | null => true
  | _ => false

/-- The text of a scalar. -/
def string? : Source → Option String
  | string s => some s
  | _ => none

/-- The truth value of a scalar. -/
def bool? : Source → Option Bool
  | bool b => some b
  | _ => none

/-- The number of a scalar. -/
def number? : Source → Option Number
  | number n => some n
  | _ => none

/-- The count that a scalar denotes: an integer that fits 64 bits without a sign. -/
def count? : Source → Option Nat
  | number (.integer n) => if n < 0 then none else some n.toNat
  | _ => none

mutual

/-- The JSON value of a tree; every key has to be a text. -/
def json? : Source → Option Json
  | null => some .null
  | void => some .null
  | bool b => some (.bool b)
  | number n => some (.number n)
  | string s => some (.string s)
  | sequence xs => (jsonItems? xs).map Json.array
  | mapping es => (jsonMembers? es).map fun ms => .object (Entries.ofList ms)

/-- The JSON values of trees. -/
def jsonItems? : List Source → Option (List Json)
  | [] => some []
  | x :: xs => do
    let j ← json? x
    let js ← jsonItems? xs
    return j :: js

/-- The JSON members of entries. -/
def jsonMembers? : List (Key × Source) → Option (List (String × Json))
  | [] => some []
  | (k, v) :: es => do
    let key ← k.name?
    let j ← json? v
    let ms ← jsonMembers? es
    return (key, j) :: ms

end

/-- Reads an optional part: null is its absence. -/
def optional? {α : Type} (read : Source → Option α) (source : Source) : Option (Option α) :=
  if source.isNull then some none else (read source).map some

/-- Reads a list. -/
def list? {α : Type} (read : Source → Option α) : Source → Option (List α)
  | sequence xs => xs.mapM read
  | _ => none

/-- The members of a mapping under their names; every key has to be a text. -/
def members? : Source → Option (List (String × Source))
  | mapping es => es.mapM fun (k, v) => k.name?.map (·, v)
  | _ => none

/-- Reads a mapping from names to parts. A repeated name keeps its first place and its last
value. -/
def entries? {α : Type} (read : Source → Option α) (source : Source) : Option (Entries α) := do
  let ms ← source.members?
  let es ← ms.mapM fun (k, v) => (read v).map (k, ·)
  return Entries.ofList es

/-- Members of which none has one of the given names twice. -/
def unrepeated? (names : List String) (members : List (String × Source)) :
    Option (List (String × Source)) :=
  if names.any fun n => 1 < (members.filter fun m => m.1 == n).length then none else some members

/-- The members of a record that keeps its unknown members, none of the known ones repeated. -/
def openRecord? (names : List String) (source : Source) : Option (List (String × Source)) :=
  source.members?.bind (unrepeated? names)

/-- The fields of a mapping that is a record, none of them repeated. -/
def fields? (names : List String) (entries : List (Key × Source)) :
    Option (List (String × Source)) := do
  let ms ← entries.mapM fun (k, v) => (k.field? names).map fun name => name.map (·, v)
  unrepeated? names (ms.filterMap id)

/-- The fields of a record. -/
def record? (names : List String) : Source → Option (List (String × Source))
  | sequence xs => if names.length < xs.length then none else some (names.zip xs)
  | mapping es => fields? names es
  | _ => none

/-- The text field of a mapping that is looked at as a record of that field alone. -/
def onlyText? (name : String) : Source → Option String
  | mapping es => do
    let ms ← fields? [name] es
    let target ← Entries.lookup? name ms
    target.string?
  | _ => none

/-- Reads the field of a name; a missing field has the given value. -/
def field? {α : Type} (members : List (String × Source)) (name : String) (missing : α)
    (read : Source → Option α) : Option α :=
  match Entries.lookup? name members with
  | some source => read source
  | none => some missing

/-- Reads the field of a name, which may not be missing. -/
def required? {α : Type} (members : List (String × Source)) (name : String)
    (read : Source → Option α) : Option α :=
  (Entries.lookup? name members).bind read

/-- Reads an optional field. -/
def optionalField? {α : Type} (members : List (String × Source)) (name : String)
    (read : Source → Option α) : Option (Option α) :=
  field? members name none (optional? read)

/-- The members under other than the given names, as JSON values. -/
def others? (names : List String) (members : List (String × Source)) : Option (Entries Json) := do
  let es ← (members.filter fun m => !names.contains m.1).mapM fun (k, v) =>
    v.json?.map (k, ·)
  return Entries.ofList es

end Source
end ApiResolution
