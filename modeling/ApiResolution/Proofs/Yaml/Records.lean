import ApiResolution.Proofs.Source
import ApiResolution.Yaml.Slot

/-!
Records in the YAML trees of JSON values. Members that a record does not know are not looked at, so
the record is read from an object as from the object of its known members alone
(`readNode?_record`).
-/

namespace ApiResolution
namespace Yaml

namespace Node

mutual

/-- The tree of a JSON value that is written as in JSON: texts and keys are quoted. -/
def ofJson : Json → Node
  | .null => scalar ⟨.plain, none, "null"⟩
  | .bool b => scalar ⟨.plain, none, if b then "true" else "false"⟩
  | .number n => scalar ⟨.plain, none, n.text⟩
  | .string s => scalar ⟨.quoted, none, s⟩
  | .array xs => sequence none (ofItems xs)
  | .object ms => mapping none (ofMembers ms)

/-- The trees of JSON values. -/
def ofItems : List Json → List Node
  | [] => []
  | x :: xs => ofJson x :: ofItems xs

/-- The entries of the members of a JSON object. -/
def ofMembers : List (String × Json) → List (Node × Node)
  | [] => []
  | (k, v) :: ms => (scalar ⟨.quoted, none, k⟩, ofJson v) :: ofMembers ms

end

theorem ofMembers_eq_map (ms : List (String × Json)) :
    ofMembers ms = ms.map fun m => (scalar ⟨.quoted, none, m.1⟩, ofJson m.2) := by
  induction ms with
  | nil => rfl
  | cons m ms ih => rw [ofMembers, ih, List.map_cons]

end Node

/-- The value is a scalar that is read at a place as the value that it is. -/
def Slot.ReadsScalar (slot : Slot) (v : Json) : Prop :=
  ∃ s, Node.ofJson v = .scalar s ∧ slot.scalar? s = some (Source.ofJson v)

namespace Reading

variable {targets : List (Nat × Node)} {slot : Slot}

theorem node_scalar (depth : Nat) (s : Scalar) :
    node targets depth slot (.scalar s) = ofOption (slot.scalar? s) := by
  cases depth with
  | zero => rfl
  | succ depth => rfl

theorem node_of_readsScalar {v : Json} (depth : Nat) (h : slot.ReadsScalar v) :
    node targets depth slot (Node.ofJson v) = pure (Source.ofJson v) := by
  obtain ⟨s, hs, hread⟩ := h
  rw [hs, node_scalar, hread]
  rfl

theorem keyText_scalar (s : Scalar) : keyText targets (.scalar s) = pure s.text := rfl

/-- The members of an object are read by name, those that the record does not know left out. -/
theorem entry_record {fields : List (String × Slot)} {m : String × Json} (depth : Nat)
    (h : ∀ slot, Entries.lookup? m.1 fields = some slot → slot.ReadsScalar m.2) :
    entry targets (node targets depth) (.record fields) (.scalar ⟨.quoted, none, m.1⟩)
        (Node.ofJson m.2) =
      pure (if Entries.contains m.1 fields then some (.name m.1, Source.ofJson m.2) else none) := by
  simp only [entry, keyText_scalar, pure_bind, Slot.member?]
  rw [Entries.contains]
  cases hfound : Entries.lookup? m.1 fields with
  | none => rfl
  | some slot =>
    dsimp only
    rw [node_of_readsScalar depth (h slot hfound)]
    rfl

theorem mapM_eq_pure {α β : Type} {f : α → Reading β} {g : α → β} {as : List α}
    (h : ∀ a ∈ as, f a = pure (g a)) : as.mapM f = pure (as.map g) := by
  induction as with
  | nil => rfl
  | cons a as ih =>
    obtain ⟨ha, has⟩ := List.forall_mem_cons.mp h
    rw [List.mapM_cons, ha, ih has, pure_bind, pure_bind, List.map_cons]

/-- A record is read by its known members, if all of these are scalars. -/
theorem node_record {fields : List (String × Slot)} {ms : Entries Json} (depth : Nat)
    (h : ∀ m ∈ ms, ∀ slot, Entries.lookup? m.1 fields = some slot → slot.ReadsScalar m.2) :
    node targets (depth + 1) (.record fields) (Node.ofJson (.object ms)) =
      pure (Source.ofJson (.object (ms.filter fun m => Entries.contains m.1 fields))) := by
  have hentries : (Node.ofMembers ms).mapM
      (fun e => entry targets (node targets depth) (.record fields) e.1 e.2) =
      pure (ms.map fun m => if Entries.contains m.1 fields then
        some (Key.name m.1, Source.ofJson m.2) else none) := by
    rw [Node.ofMembers_eq_map, List.mapM_map]
    exact mapM_eq_pure fun m hm => entry_record depth (h m hm)
  have hknown : (ms.map fun m => if Entries.contains m.1 fields then
      some (Key.name m.1, Source.ofJson m.2) else none).filterMap id =
      Source.ofMembers (ms.filter fun m => Entries.contains m.1 fields) := by
    rw [Source.ofMembers_eq_map, List.filterMap_map]
    clear h hentries
    induction ms with
    | nil => rfl
    | cons m ms ih =>
      rw [List.filterMap_cons, List.filter_cons, ih]
      cases hc : Entries.contains m.1 fields with
      | true => simp [hc]
      | false => simp [hc]
  change ((Node.ofMembers ms).mapM
    fun e => entry targets (node targets depth) (.record fields) e.1 e.2) >>=
      (fun entries => pure (Source.mapping (entries.filterMap id))) = _
  rw [hentries, pure_bind, hknown, Source.ofJson]

end Reading

/-- A record whose known members are scalars is read from an object as from the object of these
members. -/
theorem readNode?_record {fields : List (String × Slot)} {ms : Entries Json}
    (h : ∀ m ∈ ms, ∀ slot, Entries.lookup? m.1 fields = some slot → slot.ReadsScalar m.2) :
    (Slot.record fields).readNode? (Node.ofJson (.object ms)) =
      some (Source.ofJson (.object (ms.filter fun m => Entries.contains m.1 fields))) := by
  rw [Slot.readNode?, maxDepth, Reading.node_record 127 h]
  rfl

end Yaml
end ApiResolution
