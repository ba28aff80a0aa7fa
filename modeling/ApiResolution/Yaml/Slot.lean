import ApiResolution.Source
import ApiResolution.Yaml.Tree

/-!
Reading YAML text. What a scalar means depends on the place where it stands: a *slot* says what is
read there. Members of a record that it does not know are not looked at. Aliases are followed where
they are read, at most a hundred times for each leaf or bracket of the text, and collections may be
nested 128 deep along the way.
-/

namespace ApiResolution
namespace Yaml

/-- What is read at a place. -/
inductive Slot where
  /-- A text, whatever it looks like. -/
  | text
  /-- A truth value. -/
  | flag
  /-- A count. -/
  | count
  /-- Any JSON value. -/
  | value
  /-- Something that is looked at as a whole before its kind is known, so that even its keys become
  the values that they denote. -/
  | whole
  /-- A schema. -/
  | schema
  /-- Something that null stands for the absence of. -/
  | optional (slot : Slot)
  /-- A list of such things. -/
  | list (slot : Slot)
  /-- Such things under names. -/
  | entries (slot : Slot)
  /-- A record with these fields, which ignores others. -/
  | record (fields : List (String × Slot))

namespace Slot

/-- What a discriminator is read as. -/
def discriminator : Slot := record [("propertyName", text), ("mapping", entries text)]

/-- What the keyword of a schema is read as. -/
def ofKeyword (name : String) : Slot :=
  if ["$ref", "format", "title", "description", "pattern"].contains name then optional text
  else if ["nullable", "readOnly", "writeOnly", "uniqueItems"].contains name then optional flag
  else if ["minLength", "maxLength", "minItems", "maxItems"].contains name then optional count
  else if ["const", "default", "example", "minimum", "maximum", "exclusiveMinimum",
    "exclusiveMaximum", "multipleOf"].contains name then optional value
  else if ["type", "additionalProperties"].contains name then optional whole
  else if ["allOf", "oneOf", "anyOf"].contains name then optional (list schema)
  else if name = "enum" then optional (list value)
  else if name = "required" then optional (list text)
  else if name = "items" then optional schema
  else if name = "properties" then optional (entries schema)
  else if name = "discriminator" then optional discriminator
  else whole

/-- The slot of what is there when something is there. -/
def present : Slot → Slot
  | optional s => s.present
  | s => s

/-- What the items of a sequence are read as, if a sequence may stand here. Where any value may
stand, a local tag is refused. -/
def item? (slot : Slot) (tag : Option String) : Option Slot :=
  match slot with
  | list s => some s
  | value => if isLocalTag tag then none else some value
  | whole => if isLocalTag tag then none else some whole
  | _ => none

/-- Whether a mapping may stand here. -/
def takesMapping (slot : Slot) (tag : Option String) : Bool :=
  match slot with
  | entries _ => true
  | record _ => true
  | schema => true
  | value => !isLocalTag tag
  | whole => !isLocalTag tag
  | _ => false

/-- What the member of a name is read as, if it is read. -/
def member? (slot : Slot) (name : String) : Option Slot :=
  match slot with
  | entries s => some s
  | record fields => Entries.lookup? name fields
  | schema => some (ofKeyword name)
  | value => some value
  | _ => none

end Slot

/-- The tree of a value. -/
def PlainValue.source? : PlainValue → Option Source
  | null => some .null
  | bool b => some (.bool b)
  | number n => some (.number n)
  | notFinite => some .void
  | tooLarge => none
  | text s => some (.string s)

/-- The key that a scalar denotes. -/
def Scalar.key? (s : Scalar) : Option Key :=
  match s.value? with
  | some (.text t) => some (.name t)
  | some (.number (.integer n)) => some (if s.hasMinus then .other else .place n.toNat)
  | some .tooLarge => none
  | some _ => some .other
  | none => none

/-- The tree of a scalar at a place. -/
def Slot.scalar? (s : Scalar) : Slot → Option Source
  | text => some (.string s.text)
  | flag => s.bool?.map .bool
  | count => s.count?.map fun n => .number (.integer n)
  | value => s.value?.bind PlainValue.source?
  | whole => s.value?.bind PlainValue.source?
  | schema => if s.isEmpty then some (.mapping []) else none
  | list _ => if s.isEmpty then some (.sequence []) else none
  | entries _ => if s.isEmpty then some (.mapping []) else none
  | record _ => if s.isEmpty then some (.mapping []) else none
  | optional slot => do
    let absent ← s.isAbsent?
    if absent then some .null
    else
      match ← scalar? s slot with
      | .null => some .void
      | source => some source

/-- Reading with a number of aliases that may still be followed. -/
abbrev Reading := StateT Nat Option

namespace Reading

/-- What is there, or a refusal. -/
def ofOption {α : Type} (x : Option α) : Reading α := fun n => x.map (·, n)

/-- The node that a node stands for. -/
def follow (targets : List (Nat × Node)) : Node → Reading Node
  | .alias a => fun n =>
    match n with
    | 0 => none
    | n + 1 => (targets.lookup a).map (·, n)
  | .anchored _ n => pure n
  | node => pure node

/-- The text of a key. -/
def keyText (targets : List (Nat × Node)) (key : Node) : Reading String := do
  match ← follow targets key with
  | .scalar s => return s.text
  | _ => failure

/-- The key of a mapping that is looked at as a whole. -/
def wholeKey (targets : List (Nat × Node)) (nested : Slot → Node → Reading Source) (key : Node) :
    Reading Key := do
  match ← follow targets key with
  | .scalar s => ofOption s.key?
  | node => do
    let _ ← nested .whole node
    return .other

/-- Reads an entry of a mapping; one that a record does not know is left out. -/
def entry (targets : List (Nat × Node)) (nested : Slot → Node → Reading Source) (slot : Slot)
    (key value : Node) : Reading (Option (Key × Source)) := do
  match slot with
  | .whole => do
    let k ← wholeKey targets nested key
    let v ← nested .whole value
    return some (k, v)
  | _ => do
    let name ← keyText targets key
    match slot.member? name with
    | some s => do
      let v ← nested s value
      return some (.name name, v)
    | none => return none

/-- Reads a node without anchor and alias; `nested` reads nodes inside of it, if they may be nested
any deeper. -/
def content (targets : List (Nat × Node)) (nested : Option (Slot → Node → Reading Source))
    (slot : Slot) : Node → Reading Source
  | .scalar s => ofOption (slot.scalar? s)
  | .sequence tag xs => do
    let read ← ofOption nested
    let item ← ofOption (slot.present.item? tag)
    let items ← xs.mapM (read item)
    return .sequence items
  | .mapping tag es => do
    let read ← ofOption nested
    if slot.present.takesMapping tag then do
      let entries ← es.mapM fun (k, v) => entry targets read slot.present k v
      return .mapping (entries.filterMap id)
    else failure
  | _ => failure

/-- Reads a node, with collections nested at most so deep. -/
def node (targets : List (Nat × Node)) : Nat → Slot → Node → Reading Source
  | 0, slot, n => do
    let n ← follow targets n
    content targets none slot n
  | depth + 1, slot, n => do
    let n ← follow targets n
    content targets (some (node targets depth)) slot n

end Reading

/-- The deepest nesting of collections. -/
def maxDepth : Nat := 128

/-- How often aliases may be followed for each leaf or bracket of the text. -/
def maxRepetition : Nat := 100

/-- Reads a tree. -/
def Slot.readNode? (slot : Slot) (root : Node) : Option Source :=
  let read := Reading.node (root.targets []) maxDepth slot root
  (read.run (maxRepetition * root.size)).map Prod.fst

/-- Reads a text. -/
def Slot.readText? (slot : Slot) (text : String) : Option Source :=
  (parse? text).bind slot.readNode?

end Yaml
end ApiResolution
