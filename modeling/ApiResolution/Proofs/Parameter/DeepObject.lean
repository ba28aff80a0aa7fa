import ApiResolution.Parameter.DeepObject
import ApiResolution.Proofs.Context
import ApiResolution.Proofs.Model.Tour
import ApiResolution.Proofs.Schema.Rearranged
import Mathlib.Data.Multiset.Bind

/-!
What a deep object stands for. `Flattens` flattens properties without a bound on the named schemas
that are entered: it gives one list for any properties, whether or not references lead back
(`existsUnique_flattens`), and that list is what a deep object stands for. A named schema is closed
to what is below it only, so the order of properties counts for the order of the list alone
(`rearranged_deepObject`).
-/

namespace ApiResolution
namespace ParameterObject

/-- Parameters that differ in the order of the properties in their schemas only. -/
structure Rearranged (d d' : ParameterObject) : Prop where
  others : { d with schema := none } = { d' with schema := none }
  schema : Option.Rel Schema.Rearranged d.schema d'.schema

/-- Properties flatten to parameters below a path, one after the other. The schema of a property
that has properties is entered unless its name is among those that were entered above it. -/
inductive Flattens (c : Context) (d : ParameterObject) :
    List String → String → List String → Entries Schema → List ParameterObject → Prop
  | done {entered : List String} {path : String} {required : List String} :
    Flattens c d entered path required [] []
  | leaf {entered : List String} {path : String} {required : List String} {name : String}
      {s : Schema} {ps : Entries Schema} {out : List ParameterObject}
      (hmembers : hasMembers (c.dereference s) = false)
      (hrest : Flattens c d entered path required ps out) :
    Flattens c d entered path required ((name, s) :: ps)
      (d.leaf path name required s (c.dereference s) :: out)
  | again {entered : List String} {path : String} {required : List String} {name key : String}
      {s : Schema} {ps : Entries Schema} {out : List ParameterObject}
      (hmembers : hasMembers (c.dereference s) = true) (hkey : c.refName? s = some key)
      (hentered : key ∈ entered) (hrest : Flattens c d entered path required ps out) :
    Flattens c d entered path required ((name, s) :: ps) out
  | enter {entered : List String} {path : String} {required : List String} {name : String}
      {s : Schema} {ps : Entries Schema} {inner out : List ParameterObject}
      (hmembers : hasMembers (c.dereference s) = true)
      (hfree : ∀ key, c.refName? s = some key → key ∉ entered)
      (hinner : Flattens c d ((c.refName? s).toList ++ entered) (memberPath path name)
        (c.dereference s).required (c.dereference s).shape.members inner)
      (hrest : Flattens c d entered path required ps out) :
    Flattens c d entered path required ((name, s) :: ps) (inner ++ out)

variable {c c' : Context} {d d' : ParameterObject}

theorem Flattens.unique {entered : List String} {path : String} {required : List String}
    {ps : Entries Schema} {out out' : List ParameterObject}
    (h : Flattens c d entered path required ps out)
    (h' : Flattens c d entered path required ps out') : out = out' := by
  induction h generalizing out' with
  | done =>
    cases h'
    rfl
  | leaf hmembers _ ih =>
    cases h' with
    | leaf _ hrest' => rw [ih hrest']
    | again hmembers' => simp [hmembers] at hmembers'
    | enter hmembers' => simp [hmembers] at hmembers'
  | again hmembers hkey hentered _ ih =>
    cases h' with
    | leaf hmembers' => simp [hmembers] at hmembers'
    | again _ _ _ hrest' => exact ih hrest'
    | enter _ hfree => exact absurd hentered (hfree _ hkey)
  | enter hmembers hfree _ _ ihinner ih =>
    cases h' with
    | leaf hmembers' => simp [hmembers] at hmembers'
    | again _ hkey hentered => exact absurd hentered (hfree _ hkey)
    | enter _ _ hinner' hrest' => rw [ihinner hinner', ih hrest']

/-! ## Flattening ends -/

section Ends

variable {enter : List String → String → Schema → List ParameterObject} {bound : Nat}

/-- A name that is entered has a schema. -/
theorem exists_schema?_of_hasMembers {s : Schema} {key : String} (hkey : c.refName? s = some key)
    (h : hasMembers (c.dereference s) = true) : ∃ t, c.schema? key = some t := by
  by_contra hnone
  have hnone : c.schema? key = none := by
    rw [Option.eq_none_iff_forall_ne_some]
    exact fun t ht => hnone ⟨t, ht⟩
  have hend : c.chainEnd? Context.maxHops [] s = none := by
    rw [Context.maxHops, Context.chainEnd?, hkey]
    simp [hnone]
  rw [Context.dereference, hend, Option.getD_none] at h
  obtain ⟨⟨target, htarget⟩, -⟩ := Context.of_refName? hkey
  rcases s with ⟨a, shape⟩
  cases shape <;> simp_all [hasMembers, Schema.refTarget?, Schema.properties?, Shape.properties?]

theorem leaves_eq (entered : List String) (path : String) (s : Schema) :
    leaves c d enter entered path s =
      propertyLeaves c d enter entered path s.required s.shape.members := by
  rcases s with ⟨a, shape⟩
  cases shape <;> rfl

/-- The parameters below a property of a schema that has properties. -/
def below (c : Context) (d : ParameterObject)
    (enter : List String → String → Schema → List ParameterObject) (entered : List String)
    (path : String) (s : Schema) : List ParameterObject :=
  match c.refName? s with
  | none => leaves c d enter entered path s
  | some key => if key ∈ entered then [] else enter (key :: entered) path (c.dereference s)

theorem propertyLeaves_cons (entered : List String) (path : String) (required : List String)
    (name : String) (s : Schema) (ps : List (String × Schema)) :
    propertyLeaves c d enter entered path required ((name, s) :: ps) =
      (if hasMembers (c.dereference s) then below c d enter entered (memberPath path name) s
        else [d.leaf path name required s (c.dereference s)]) ++
      propertyLeaves c d enter entered path required ps := by
  rw [propertyLeaves, below]
  congr 1
  cases hkey : c.refName? s with
  | none => rw [Context.dereference_eq_self hkey]
  | some key => simp only [List.contains_iff_mem]

/-- Entering a schema flattens its properties as long as fewer than `bound` named schemas are left
to be entered. -/
def Enters (c : Context) (d : ParameterObject)
    (enter : List String → String → Schema → List ParameterObject) (bound : Nat) : Prop :=
  ∀ entered path s, Members.unseen c entered < bound →
    Flattens c d entered path s.required s.shape.members (enter entered path s)

theorem flattens_of_below (h : Enters c d enter bound) {entered : List String}
    (hbound : Members.unseen c entered ≤ bound) {path : String} {required : List String}
    {ps : List (String × Schema)}
    (hinside : ∀ e ∈ ps, ∀ path, Flattens c d entered path e.2.required e.2.shape.members
      (leaves c d enter entered path e.2)) :
    Flattens c d entered path required ps
      (propertyLeaves c d enter entered path required ps) := by
  induction ps with
  | nil => exact .done
  | cons e ps ih =>
    rcases e with ⟨name, s⟩
    rw [List.forall_mem_cons] at hinside
    have hrest := ih hinside.2
    rw [propertyLeaves_cons]
    split
    · next hmembers =>
      rw [below]
      cases hkey : c.refName? s with
      | none =>
        have hself := Context.dereference_eq_self hkey
        refine .enter hmembers (by simp [hkey]) ?_ hrest
        rw [hkey, hself]
        exact hinside.1 (memberPath path name)
      | some key =>
        dsimp only
        split
        · next hentered => exact .again hmembers hkey hentered hrest
        · next hfree =>
          obtain ⟨t, ht⟩ := exists_schema?_of_hasMembers hkey hmembers
          refine .enter hmembers ?_ ?_ hrest
          · rintro key' hkey'
            rwa [← Option.some.inj (hkey.symm.trans hkey')]
          · rw [hkey]
            exact h _ _ _ ((Members.unseen_cons_lt ht hfree).trans_le hbound)
    · next hmembers => exact .leaf (Bool.eq_false_iff.mpr hmembers) hrest

theorem flattens_leaves (h : Enters c d enter bound) {entered : List String}
    (hbound : Members.unseen c entered ≤ bound) (s : Schema) (path : String) :
    Flattens c d entered path s.required s.shape.members (leaves c d enter entered path s) := by
  induction s using Schema.inside_induction generalizing path with
  | h s ih =>
    rw [leaves_eq]
    refine flattens_of_below h hbound fun e he path => ?_
    exact ih e.2 (Shape.members_subset_parts he) path

/-- The bound on nested names is not met as long as it exceeds the number of those left. -/
theorem enters_leavesBelow (c : Context) (d : ParameterObject) (bound : Nat) :
    Enters c d (leavesBelow c d bound) bound := by
  induction bound with
  | zero => exact fun _ _ _ hbound => absurd hbound (Nat.not_lt_zero _)
  | succ bound ih =>
    intro entered path s hbound
    exact flattens_leaves ih (Nat.le_of_lt_succ hbound) s path

/-- Properties of any kind flatten to exactly one list. -/
theorem existsUnique_flattens (c : Context) (d : ParameterObject) (entered : List String)
    (path : String) (required : List String) (ps : Entries Schema) :
    ∃! out, Flattens c d entered path required ps out := by
  have henter := enters_leavesBelow c d c.schemas.length
  have hbound := Members.unseen_le_length c entered
  have hflattens : Flattens c d entered path required ps _ :=
    flattens_of_below henter hbound fun e _ path => flattens_leaves henter hbound e.2 path
  exact ⟨_, hflattens, fun out hout => hout.unique hflattens⟩

end Ends

/-! ## The order of properties -/

/-- Lists of parameters that differ in their order and in the order of the properties in their
schemas only. -/
def SameLeaves (xs ys : List ParameterObject) : Prop :=
  Multiset.Rel Rearranged (xs : Multiset ParameterObject) ys

section Order

variable {s t : Schema}

theorem hasMembers_eq (h : s.Rearranged t) : hasMembers s = hasMembers t := by
  have hlength := h.keys_perm.length_eq
  have hempty : s.shape.members.isEmpty = t.shape.members.isEmpty := by
    rw [Bool.eq_iff_iff, List.isEmpty_iff_length_eq_zero, List.isEmpty_iff_length_eq_zero]
    simp only [Entries.keys, List.length_map] at hlength
    rw [hlength]
  unfold hasMembers
  rw [h.isMap_eq]
  exact congrArg (!t.isMap && !·) hempty

theorem leaf_rearranged (hd : d.Rearranged d') (hs : s.Rearranged t) {u v : Schema}
    (hu : u.Rearranged v) (path name : String) (required : List String) :
    (d.leaf path name required s u).Rearranged (d'.leaf path name required t v) := by
  have hothers := hd.others
  simp only [ParameterObject.mk.injEq] at hothers
  refine ⟨?_, .some hs⟩
  simp only [leaf, hu.isArray_eq, hs.annotations_eq, hothers]

variable {enter enter' : List String → String → Schema → List ParameterObject}

/-- Continuing at rearranged schemas gives the same parameters. -/
def SameBelow (enter enter' : List String → String → Schema → List ParameterObject) : Prop :=
  ∀ entered path {s t : Schema}, s.Rearranged t →
    SameLeaves (enter entered path s) (enter' entered path t)

theorem propertyLeaves_eq_flatMap (entered : List String) (path : String) (required : List String)
    (ps : List (String × Schema)) : propertyLeaves c d enter entered path required ps =
      ps.flatMap fun e => propertyLeaves c d enter entered path required [e] := by
  induction ps with
  | nil => rfl
  | cons e ps ih =>
    rcases e with ⟨name, s⟩
    rw [List.flatMap_cons, ← ih, propertyLeaves_cons, propertyLeaves_cons]
    exact congrArg (· ++ _) (List.append_nil _).symm

theorem sameLeaves_property (hc : c.Rearranged c') (hd : d.Rearranged d')
    (henter : SameBelow enter enter') (entered : List String) (path : String)
    (required : List String) (name : String) (hs : s.Rearranged t)
    (hinside : ∀ path, SameLeaves (leaves c d enter entered path s)
      (leaves c' d' enter' entered path t)) :
    SameLeaves (propertyLeaves c d enter entered path required [(name, s)])
      (propertyLeaves c' d' enter' entered path required [(name, t)]) := by
  have htarget := hc.dereference hs
  rw [propertyLeaves_cons, propertyLeaves_cons, hasMembers_eq htarget]
  simp only [propertyLeaves, List.append_nil]
  split
  · rw [below, below, hc.refName?_eq hs]
    cases c'.refName? t with
    | none => exact hinside _
    | some key =>
      dsimp only
      split
      · exact .zero
      · exact henter _ _ htarget
  · exact .cons (leaf_rearranged hd hs htarget path name required) .zero

/-- Flattening visits each property with the same entered names, so their order is that of the
parameters and nothing else. -/
theorem sameLeaves_leaves (hc : c.Rearranged c') (hd : d.Rearranged d')
    (henter : SameBelow enter enter') (entered : List String) (path : String)
    (hs : s.Rearranged t) :
    SameLeaves (leaves c d enter entered path s) (leaves c' d' enter' entered path t) := by
  induction s using Schema.inside_induction generalizing t path with
  | h s ih =>
    rw [leaves_eq, leaves_eq, hs.required_eq, propertyLeaves_eq_flatMap, propertyLeaves_eq_flatMap,
      SameLeaves, ← Multiset.coe_bind, ← Multiset.coe_bind]
    have hmembers : Multiset.Rel (fun e f => e ∈ s.shape.members ∧ SameName Schema.Rearranged e f)
        (s.shape.members : Multiset (String × Schema)) t.shape.members :=
      hs.members.mono fun e he _ _ hef => ⟨Multiset.mem_coe.mp he, hef⟩
    refine Multiset.rel_bind (fun e f hef => ?_) hmembers
    obtain ⟨he, ⟨name, huv⟩⟩ := hef
    exact sameLeaves_property hc hd henter entered path _ name huv fun path =>
      ih _ (Shape.members_subset_parts he) path huv

theorem sameBelow_leavesBelow (hc : c.Rearranged c') (hd : d.Rearranged d') (bound : Nat) :
    SameBelow (leavesBelow c d bound) (leavesBelow c' d' bound) := by
  induction bound with
  | zero => exact fun _ _ _ _ _ => .zero
  | succ bound ih => exact fun entered path _ _ hs => sameLeaves_leaves hc hd ih entered path hs

end Order

/-- The object whose properties a deep object in the query stands for. -/
def object? (c : Context) (d : ParameterObject) : Option Schema :=
  if d.style = some "deepObject" ∧ ParameterLocation.ofKeyword? d.location = some .query then
    (d.schema.map c.dereference).filter hasMembers
  else none

theorem deepObject?_eq (c : Context) (d : ParameterObject) : d.deepObject? c =
    (d.object? c).map fun s => leavesBelow c d (c.schemas.length + 1) [] d.name s := by
  unfold deepObject? object?
  split
  · cases d.schema with
    | none => rfl
    | some s => by_cases hmembers : hasMembers (c.dereference s) = true <;> simp [hmembers]
  · rfl

theorem object?_rearranged (hc : c.Rearranged c') (hd : d.Rearranged d') :
    Option.Rel Schema.Rearranged (d.object? c) (d'.object? c') := by
  have hothers := hd.others
  simp only [ParameterObject.mk.injEq] at hothers
  simp only [object?, hothers]
  split
  · exact (hd.schema.map fun _ _ => hc.dereference).filter fun _ _ => hasMembers_eq
  · exact .none

/-- Flattening ends: whatever refers to whatever, properties of any kind flatten to exactly one
list, and a deep object stands for the list that the properties of its object flatten to.
Rearranging the properties in the named schemas and in the schema of the parameter does nothing but
rearrange that list, and the properties in the schemas of its parameters. -/
theorem rearranged_deepObject (c : Context) (d : ParameterObject) :
    (∀ entered path required ps, ∃! out, Flattens c d entered path required ps out) ∧
      (∀ s ∈ d.object? c, ∃ out, d.deepObject? c = some out ∧
        Flattens c d [] d.name s.required s.shape.members out) ∧
      ∀ c' d', c.Rearranged c' → d.Rearranged d' →
        Option.Rel SameLeaves (d.deepObject? c) (d'.deepObject? c') := by
  refine ⟨existsUnique_flattens c d, fun s hs =>
    ⟨leavesBelow c d (c.schemas.length + 1) [] d.name s, ?_, ?_⟩, fun c' d' hc hd => ?_⟩
  · rw [deepObject?_eq, Option.mem_def.mp hs]
    rfl
  · exact enters_leavesBelow c d _ [] d.name s
      (Nat.lt_succ_of_le (Members.unseen_le_length c []))
  · have hlength : c.schemas.length = c'.schemas.length := hc.schemas.length_eq
    have hothers := hd.others
    simp only [ParameterObject.mk.injEq] at hothers
    rw [deepObject?_eq, deepObject?_eq, hlength, hothers.1]
    exact (object?_rearranged hc hd).map fun _ _ => sameBelow_leavesBelow hc hd _ [] d'.name

/-- The properties of a tag, which leads back to itself. -/
def tagMembers : Entries Schema :=
  [("parent", .reference "#/components/schemas/Tag"), ("word", .scalar .string),
    ("pages", .ofShape (.array (some (.scalar .integer))))]

/-- A document with tags whose properties stand in some order. -/
def tagContext (ps : Entries Schema) : Context where
  options := {}
  conventions := .neutral false
  document := { components := { schemas := [("Tag", .ofShape (.object ps ["WORD"]))] } }

/-- A filter by a tag. -/
def tagFilter : ParameterObject where
  name := "tag"
  location := "query"
  schema := some (.reference "#/components/schemas/Tag")
  style := some "deepObject"

/-- The parameters with their names and required flags. -/
def tagLeaves (ps : Entries Schema) : Option (List (String × Bool)) :=
  (tagFilter.deepObject? (tagContext ps)).map fun out => out.map fun p => (p.name, p.required)

theorem rearranged_deepObject_tags :
    (tagContext tagMembers).Rearranged (tagContext tagMembers.reverse) ∧
      Option.Rel SameLeaves (tagFilter.deepObject? (tagContext tagMembers))
        (tagFilter.deepObject? (tagContext tagMembers.reverse)) ∧
      tagLeaves tagMembers = some [("tag[parent][word]", true), ("tag[parent][pages][]", false),
        ("tag[word]", true), ("tag[pages][]", false)] ∧
      tagLeaves tagMembers.reverse = some [("tag[pages][]", false), ("tag[word]", true),
        ("tag[parent][pages][]", false), ("tag[parent][word]", true)] := by
  have hcontext : (tagContext tagMembers).Rearranged (tagContext tagMembers.reverse) :=
    ⟨rfl, .cons (.mk "Tag" (.of_perm (List.reverse_perm tagMembers).symm)) .nil⟩
  have hparameter : tagFilter.Rearranged tagFilter := ⟨rfl, .some (.refl _)⟩
  exact ⟨hcontext, (rearranged_deepObject _ tagFilter).2.2 _ _ hcontext hparameter,
    by decide +kernel, by decide +kernel⟩

end ParameterObject
end ApiResolution
