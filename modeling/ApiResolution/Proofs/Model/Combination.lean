import ApiResolution.Proofs.Model.Construction
import ApiResolution.Proofs.Model.Hierarchy
import ApiResolution.Proofs.Model.Options
import ApiResolution.Proofs.Model.Tour

/-!
What a combination merges. Adding the declarations of schemas one after the other leaves the last
declaration of each name (`lookup?_foldl_addOwn`) and requires what any of them requires, and the
members that a combination lists or inherits are those of a list of schemas: itself, its inline
branches and what is passed from its references (`ownMembers_eq`, `inheritedMembers_eq`).
-/

namespace ApiResolution

/-- The properties that a schema declares. -/
def Schema.declared (s : Schema) : Entries Schema := s.properties?.getD []

namespace Members

theorem lookup?_insertAll (key : String) (more es : Entries Schema) :
    Entries.lookup? key (insertAll more es) =
      (Entries.lookup? key more.reverse).or (Entries.lookup? key es) := by
  unfold insertAll
  induction more generalizing es with
  | nil => simp
  | cons e more ih =>
    rw [List.foldl_cons, ih, List.reverse_cons, Entries.lookup?_append, Option.or_assoc]
    congr 1
    by_cases he : e.1 = key
    · rw [← he, Entries.lookup?_insert_self]
      simp [Entries.lookup?]
    · rw [Entries.lookup?_insert_of_ne (Ne.symm he)]
      simp [Entries.lookup?, he]

/-- The last declaration of a name. -/
def declaration? (key : String) (ss : List Schema) : Option Schema :=
  ss.reverse.findSome? fun s => Entries.lookup? key s.declared.reverse

theorem declaration?_append (key : String) (ss ts : List Schema) :
    declaration? key (ss ++ ts) = (declaration? key ts).or (declaration? key ss) := by
  simp [declaration?, List.findSome?_append]

theorem declaration?_eq_none_iff {key : String} {ss : List Schema} :
    declaration? key ss = none ↔ ∀ s ∈ ss, key ∉ Entries.keys s.declared := by
  simp [declaration?, Entries.lookup?_eq_none_iff, Entries.keys]

/-- The last declaration of a name stays. -/
theorem lookup?_foldl_addOwn (key : String) (ss : List Schema) (ms : Members) :
    Entries.lookup? key (ss.foldl addOwn ms).properties =
      (declaration? key ss).or (Entries.lookup? key ms.properties) := by
  induction ss generalizing ms with
  | nil => rfl
  | cons s ss ih =>
    have hstep : Entries.lookup? key (ms.addOwn s).properties =
        (Entries.lookup? key s.declared.reverse).or (Entries.lookup? key ms.properties) :=
      lookup?_insertAll key s.declared ms.properties
    rw [List.foldl_cons, ih, hstep, ← Option.or_assoc, ← List.singleton_append,
      declaration?_append]
    simp [declaration?]

/-- Exactly the declared names are names of properties. -/
theorem mem_keys_foldl_addOwn {key : String} {ss : List Schema} :
    key ∈ Entries.keys (ss.foldl addOwn {}).properties ↔
      ∃ s ∈ ss, key ∈ Entries.keys s.declared := by
  have hnone : Entries.lookup? key ({} : Members).properties = none := rfl
  rw [← not_iff_not, ← Entries.lookup?_eq_none_iff, lookup?_foldl_addOwn, hnone, Option.or_none,
    declaration?_eq_none_iff]
  simp

theorem nodup_keys_foldl_addOwn (ss : List Schema) :
    (Entries.keys (ss.foldl addOwn {}).properties).Nodup := by
  have hempty : (Entries.keys ({} : Members).properties).Nodup := List.nodup_nil
  generalize ({} : Members) = ms at hempty
  induction ss generalizing ms with
  | nil => exact hempty
  | cons s ss ih => exact ih _ (Entries.nodup_keys_foldl_insert _ hempty)

/-- Whatever one of the schemas requires is required. -/
theorem mem_required_foldl_addOwn {name : String} {ss : List Schema} {ms : Members} :
    name ∈ (ss.foldl addOwn ms).required ↔ (∃ s ∈ ss, name ∈ s.required) ∨ name ∈ ms.required := by
  induction ss generalizing ms with
  | nil => simp
  | cons s ss ih =>
    have hstep : name ∈ (ms.addOwn s).required ↔ name ∈ s.required ∨ name ∈ ms.required :=
      mem_insertTexts
    rw [List.foldl_cons, ih, hstep]
    rw [List.exists_mem_cons_iff, ← or_assoc, or_comm (a := name ∈ s.required)]

/-! ## What is passed from a branch -/

/-- The schemas whose declarations are added for a branch, in order. -/
noncomputable def passedFrom (c : Context) (self : String) (branch : Schema) : List Schema :=
  (exists_tour c self branch).choose

theorem addReached_eq (c : Context) (self : String) (branch : Schema) (ms : Members) :
    addReached c self branch ms = (passedFrom c self branch).foldl addOwn ms :=
  (exists_tour c self branch).choose_spec.choose_spec.2 ms

/-- Passed are the schemas that are reached without the schema that collects, references apart. -/
theorem mem_passedFrom {c : Context} {self : String} {branch t : Schema} :
    t ∈ passedFrom c self branch ↔ c.refName? t = none ∧ Reaches c [self] branch t := by
  have htour := (exists_tour c self branch).choose_spec.choose_spec.1
  rw [passedFrom, htour.mem_passed_iff]
  simp

end Members

namespace Model

open Members

/-- The schemas whose declarations a combination takes from a branch for its own, in some mode;
what is reached from references is left out in the mode `left`. -/
noncomputable def takenFrom (c : Context) (self : String) (mode left : Composition) (b : Schema) :
    List Schema :=
  match c.refName? b with
  | none => [b]
  | some _ => if mode = left then [] else passedFrom c self b

/-- The schemas whose declarations a combination takes from its branches for its own, in order. -/
noncomputable def taken (c : Context) (self : String) (mode : Composition) :
    List Schema → List Schema
  | [] => []
  | b :: bs => takenFrom c self mode .inheritance b ++ bs.flatMap (takenFrom c self mode .mixins)

variable (c : Context) (o : Options) (self : String)

theorem foldl_takenFrom (left : Composition) (b : Schema) (ms : Members) :
    (takenFrom c self o.composition left b).foldl addOwn ms =
      match (c.withOptions o).refName? b with
      | none => ms.addOwn b
      | some _ =>
        if o.composition = left then ms else addReached (c.withOptions o) self b ms := by
  unfold takenFrom
  rw [Context.refName?_withOptions, addReached_withOptions]
  cases c.refName? b with
  | none => rfl
  | some name =>
    dsimp only
    split
    · rfl
    · exact (addReached_eq c self b ms).symm

theorem ownFrom_false_eq (bs : List Schema) (ms : Members) :
    ownFrom (c.withOptions o) self false bs ms =
      (bs.flatMap (takenFrom c self o.composition .mixins)).foldl addOwn ms := by
  induction bs generalizing ms with
  | nil => rfl
  | cons b bs ih =>
    rw [ownFrom, ih, List.flatMap_cons, List.foldl_append, foldl_takenFrom]
    rfl

/-- The members that a combination lists are those of the schemas that it takes and its own. -/
theorem ownMembers_eq (allOf : List Schema) (s : Schema) :
    ownMembers (c.withOptions o) self allOf s =
      (taken c self o.composition allOf ++ [s]).foldl addOwn {} := by
  rw [ownMembers, List.foldl_append]
  cases allOf with
  | nil => rfl
  | cons b bs =>
    rw [ownFrom, ownFrom_false_eq, taken, List.foldl_append, foldl_takenFrom]
    rfl

/-- The members that a combination inherits are those of what is passed from its references. -/
theorem inheritedMembers_eq (allOf : List Schema) :
    inheritedMembers c self allOf =
      ((allOf.filter fun b => (c.refName? b).isSome).flatMap (passedFrom c self)).foldl
        addOwn {} := by
  unfold inheritedMembers
  rw [List.foldl_flatMap]
  congr 1
  funext ms b
  exact addReached_eq c self b ms

end Model
end ApiResolution
