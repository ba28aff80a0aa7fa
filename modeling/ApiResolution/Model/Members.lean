import ApiResolution.Context

/-!
The members that a combination collects from its branches: properties under their names, the last
declaration of a name winning at its first place, and the names that are required. Branches that are
references are followed, each name once, so the collection ends on circular branches too.
-/

namespace ApiResolution

/-- Declared properties and required names. -/
structure Members where
  properties : Entries Schema := []
  required : List String := []

namespace Members

/-- Adds properties one after the other. -/
def insertAll (more es : Entries Schema) : Entries Schema :=
  more.foldl (fun acc e => Entries.insert e.1 e.2 acc) es

/-- Adds further members. -/
def add (ms : Members) (properties : Entries Schema) (required : List String) : Members where
  properties := insertAll properties ms.properties
  required := insertTexts required ms.required

/-- Adds what a schema declares itself. -/
def addOwn (ms : Members) (s : Schema) : Members := ms.add (s.properties?.getD []) s.required

/-- The members collected so far and the names that were followed. -/
structure Walk where
  members : Members
  seen : List String

mutual

/-- Adds what is reached from a schema, where `follow` continues at a name. -/
def collect (c : Context) (follow : String → Walk → Walk) : Schema → Walk → Walk
  | ⟨a, .composed allOf oneOf anyOf ps rs⟩, w =>
    let w := collectAll c follow allOf w
    { w with members := w.members.addOwn ⟨a, .composed allOf oneOf anyOf ps rs⟩ }
  | s, w =>
    match c.refName? s with
    | some name => follow name w
    | none => { w with members := w.members.addOwn s }

/-- Adds what is reached from branches, in order. -/
def collectAll (c : Context) (follow : String → Walk → Walk) : List Schema → Walk → Walk
  | [], w => w
  | s :: ss, w => collectAll c follow ss (collect c follow s w)

end

/-- Adds what is reached from a name, unless it was followed before; `rest` bounds the number of
names that are followed inside each other. -/
def reach (c : Context) : Nat → String → Walk → Walk
  | 0, _, w => w
  | rest + 1, name, w =>
    if w.seen.contains name then w
    else
      let w := { w with seen := name :: w.seen }
      match c.schema? name with
      | some s => collect c (reach c rest) s w
      | none => w

/-- Adds everything that is reached from a branch of the schema named `self`: its own declarations
and those of all branches that it is combined from. -/
def addReached (c : Context) (self : String) (branch : Schema) (ms : Members) : Members :=
  (collect c (reach c (c.schemas.length + 1)) branch ⟨ms, [self]⟩).members

end Members
end ApiResolution
