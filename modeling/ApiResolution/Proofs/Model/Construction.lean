import ApiResolution.Model.OfDocument
import ApiResolution.Proofs.Context
import ApiResolution.Proofs.Entries
import ApiResolution.Proofs.Property.Enums

/-!
What the models of a document are before they are linked. `describes_described` says, field by
field, what the model of a named schema is made of, and `Fresh` what it does not have yet;
`lookup?_ofSchemas` says which model stands under a name: that of the schema of the name, and without
one the first union that was given it.
-/

namespace ApiResolution

namespace Model

/-- The members that a schema lists for its own. -/
def listedMembers (c : Context) (name : String) (s : Schema) : Members :=
  match s.shape with
  | .composed allOf _ _ _ _ => ownMembers c name allOf s
  | _ => ⟨s.properties?.getD [], s.required⟩

/-- The members that a schema lists beside its own ones, those that it inherits. -/
def allMembers (c : Context) (name : String) (s : Schema) : Members :=
  match s.shape with
  | .composed allOf _ _ _ _ =>
    let own := ownMembers c name allOf s
    if c.options.composition = .inheritance then
      (inheritedMembers c name allOf).add own.properties own.required
    else {}
  | _ => {}

/-- The discriminator that a combination takes over from its branches. -/
def adoptedDiscriminator? (c : Context) (s : Schema) : Option Discriminator :=
  match s.shape with
  | .composed allOf _ _ _ _ => branchDiscriminator? c allOf
  | _ => none

/-- The parent that a schema names. -/
def declaredParent? (c : Context) (s : Schema) : Option String :=
  match s.shape with
  | .composed allOf _ _ _ _ => parentOf? c allOf
  | _ => none

/-- The property of an array or a map as a whole. -/
def wholeProperty? (c : Context) (name : String) (s : Schema) : Option Property :=
  if s.isArray || s.isMap then
    some ((Property.ofSchema c name s).value.toUnion c.conventions (ofMemberUnion? c name none s))
  else none

/-- The unions that stand at a schema itself and not at one of its members. -/
def ownUnions (c : Context) (name : String) (s : Schema) : List Model :=
  match s.shape with
  | .array _ => (ofMemberUnion? c name none s).toList
  | .map .. => (ofMemberUnion? c name none s).toList
  | .composed _ oneOf _ _ _ => (unionInterfaces c name oneOf s).unions
  | _ => []

theorem value_withBranches (c : Context) (allOf oneOf : List Schema) (s : Schema) (m : Model) :
    (withBranches c allOf oneOf s m).value =
      ⟨{ m with
        isComposed := true
        discriminator := m.discriminator.or (branchDiscriminator? c allOf)
        parent := parentOf? c allOf
        interfaces := m.interfaces ++ branchNames c (allOf.drop 1) ++
          (unionInterfaces c m.name oneOf s).value
        imports := insertTexts (((parentOf? c allOf).toList ++ branchNames c (allOf.drop 1)).map
          c.conventions.modelName) m.imports
        vars := (members c m.name (ownMembers c m.name allOf s)).value.value
        allVars :=
          if c.options.composition = .inheritance then
            (members c m.name ((inheritedMembers c m.name allOf).add
              (ownMembers c m.name allOf s).properties
              (ownMembers c m.name allOf s).required)).value.value
          else [] },
        (unionInterfaces c m.name oneOf s).unions ++
          (members c m.name (ownMembers c m.name allOf s)).value.unions⟩ := by
  unfold withBranches
  simp only [Noted.value_bind]
  by_cases h : c.options.composition = .inheritance
  · rw [if_pos h, if_pos h]
    rfl
  · rw [if_neg h, if_neg h]
    rfl

theorem value_withType (c : Context) (s : Schema) (m : Model) :
    (withType c s m).value =
      ⟨{ m with
        dataType := some (c.conventions.typeName (s.typeTag c.self))
        isEnum := s.isEnum
        enumValues := if s.isEnum then some { values := s.enumValues } else none
        vars := (members c m.name ⟨s.properties?.getD [], s.required⟩).value.value },
        (members c m.name ⟨s.properties?.getD [], s.required⟩).value.unions⟩ := by
  unfold withType
  simp only [Noted.value_bind, Context.value_typeTag]
  cases s.properties? <;> rfl

/-- What the model of a named schema holds before its members are finished. -/
structure Describes (c : Context) (name : String) (s : Schema) (built : WithUnions Model) :
    Prop where
  named : built.value.name = name
  className : built.value.className = c.conventions.modelName name
  schemaText : built.value.schemaText = s.prettyText
  parent : built.value.parent = declaredParent? c s
  children : built.value.children = []
  discriminator : built.value.discriminator = s.discriminator.or (adoptedDiscriminator? c s)
  vars : built.value.vars = (members c name (listedMembers c name s)).value.value
  allVars : built.value.allVars = (members c name (allMembers c name s)).value.value
  container : built.value.containerProperty = wholeProperty? c name s
  unions : built.unions =
    ownUnions c name s ++ (members c name (listedMembers c name s)).value.unions

theorem describes_described (c : Context) (name : String) (s : Schema) :
    Describes c name s (described c s (annotated c name s)).value := by
  rcases s with ⟨a, shape⟩
  unfold described
  cases shape with
  | array items =>
    constructor
    · rfl
    · rfl
    · rfl
    · rfl
    · rfl
    · exact (Option.or_none ..).symm
    · rfl
    · rfl
    · rfl
    · exact (List.append_nil _).symm
  | map value ps rs =>
    exact ⟨rfl, rfl, rfl, rfl, rfl, (Option.or_none ..).symm, rfl, rfl, rfl, rfl⟩
  | composed allOf oneOf anyOf ps rs =>
    dsimp only
    rw [value_withBranches]
    refine ⟨rfl, rfl, rfl, rfl, rfl, rfl, rfl, ?_, rfl, rfl⟩
    unfold allMembers
    dsimp only
    split <;> rfl
  | _ =>
    dsimp only
    rw [value_withType]
    exact ⟨rfl, rfl, rfl, rfl, rfl, (Option.or_none ..).symm, rfl, rfl, rfl, rfl⟩

theorem value_ofSchema (c : Context) (name : String) (s : Schema) :
    (ofSchema c name s).value =
      ⟨finish c.conventions (described c s (annotated c name s)).value.value,
        (described c s (annotated c name s)).value.unions⟩ := rfl

theorem name_ofSchema (c : Context) (name : String) (s : Schema) :
    (ofSchema c name s).value.value.name = name :=
  (describes_described c name s).named

theorem className_ofSchema (c : Context) (name : String) (s : Schema) :
    (ofSchema c name s).value.value.className = c.conventions.modelName name :=
  (describes_described c name s).className

theorem children_ofSchema (c : Context) (name : String) (s : Schema) :
    (ofSchema c name s).value.value.children = [] :=
  (describes_described c name s).children

theorem discriminator_ofSchema (c : Context) (name : String) (s : Schema) :
    (ofSchema c name s).value.value.discriminator =
      s.discriminator.or (adoptedDiscriminator? c s) :=
  (describes_described c name s).discriminator

/-- A model that is linked to no other and has no names for the values that it lists itself. -/
structure Fresh (m : Model) : Prop where
  parentModel : m.parentModel = none
  interfaceModels : m.interfaceModels = []
  listed : Property.Unnamed m.isEnum m.enumValues

theorem fresh_ofSchema (c : Context) (name : String) (s : Schema) :
    Fresh (ofSchema c name s).value.value := by
  have hnone : Property.Unnamed false none := ⟨rfl, by simp⟩
  have hdescribed : Fresh (described c s (annotated c name s)).value.value := by
    rcases s with ⟨a, shape⟩
    unfold described
    cases shape with
    | array items => exact ⟨rfl, rfl, hnone⟩
    | map value ps rs => exact ⟨rfl, rfl, hnone⟩
    | composed allOf oneOf anyOf ps rs =>
      dsimp only
      rw [value_withBranches]
      exact ⟨rfl, rfl, hnone⟩
    | _ =>
      dsimp only
      rw [value_withType]
      exact ⟨rfl, rfl, Property.unnamed_listed _⟩
  rw [value_ofSchema]
  exact ⟨hdescribed.parentModel, hdescribed.interfaceModels, hdescribed.listed⟩

/-! ## The models of unions -/

theorem value_member (c : Context) (model : String) (required : List String) (name : String)
    (s : Schema) :
    (member c model required name s).value =
      ⟨({ (Property.ofSchema c name s).value with required := required.contains name } :
          Property).toUnion c.conventions (ofMemberUnion? c model (some name) s),
        (ofMemberUnion? c model (some name) s).toList⟩ := rfl

theorem vars_members (c : Context) (model : String) (ms : Members) :
    (members c model ms).value.value =
      ms.properties.map fun e => (member c model ms.required e.1 e.2).value.value := by
  simp [members, Function.comp_def]

theorem unions_members (c : Context) (model : String) (ms : Members) :
    (members c model ms).value.unions =
      ms.properties.flatMap fun e => (ofMemberUnion? c model (some e.1) e.2).toList := by
  simp [members, List.flatMap_def, Function.comp_def, value_member]

theorem ofMemberUnion?_eq_some {c : Context} {model : String} {member : Option String} {s : Schema}
    {u : Model} (h : ofMemberUnion? c model member s = some u) :
    ∃ kind branches, s.innermost.union? = some (kind, branches) ∧
      ofUnion? c (Identifier.ofUnion kind.word model member) branches = some u := by
  unfold ofMemberUnion? at h
  dsimp only at h
  split at h
  · exact absurd h (by simp)
  · obtain ⟨⟨kind, branches⟩, hk, hu⟩ := Option.bind_eq_some_iff.mp h
    exact ⟨kind, branches, hk, hu⟩

theorem exists_ofUnion?_of_mem_ownUnions {c : Context} {name : String} {s : Schema} {u : Model}
    (h : u ∈ ownUnions c name s) : ∃ n branches, ofUnion? c n branches = some u := by
  have hmember : u ∈ (ofMemberUnion? c name none s).toList →
      ∃ n branches, ofUnion? c n branches = some u := by
    intro hu
    obtain ⟨kind, branches, -, ho⟩ := ofMemberUnion?_eq_some (Option.mem_toList.mp hu)
    exact ⟨_, branches, ho⟩
  unfold ownUnions at h
  split at h
  · exact hmember h
  · exact hmember h
  · unfold unionInterfaces at h
    split at h
    · simp at h
    · obtain ⟨⟨kind, branches⟩, -, ho⟩ := Option.bind_eq_some_iff.mp (Option.mem_toList.mp h)
      exact ⟨_, branches, ho⟩
  · simp at h

theorem exists_ofUnion?_of_mem_unions {c : Context} {name : String} {s : Schema} {u : Model}
    (h : u ∈ (ofSchema c name s).value.unions) : ∃ n branches, ofUnion? c n branches = some u := by
  rw [value_ofSchema, (describes_described c name s).unions, List.mem_append] at h
  rcases h with h | h
  · exact exists_ofUnion?_of_mem_ownUnions h
  · rw [unions_members, List.mem_flatMap] at h
    obtain ⟨e, -, hu⟩ := h
    obtain ⟨kind, branches, -, ho⟩ := ofMemberUnion?_eq_some (Option.mem_toList.mp hu)
    exact ⟨_, branches, ho⟩

/-- The model of a union has its name and no links. -/
theorem of_ofUnion? {c : Context} {name : String} {branches : List Schema} {u : Model}
    (h : ofUnion? c name branches = some u) :
    u.name = name ∧ u.className = c.conventions.modelName name ∧ u.isComposed = true ∧
      branches.mapM (alternative? c) = some u.interfaces ∧ u.parent = none ∧ u.children = [] ∧
      u.discriminator = none ∧ u.vars = [] ∧ u.allVars = [] ∧ u.containerProperty = none := by
  unfold ofUnion? at h
  obtain ⟨interfaces, hi, hu⟩ := Option.bind_eq_some_iff.mp h
  obtain rfl := Option.some.inj hu
  exact ⟨rfl, rfl, rfl, hi, rfl, rfl, rfl, rfl, rfl, rfl⟩

theorem fresh_of_ofUnion? {c : Context} {name : String} {branches : List Schema} {u : Model}
    (h : ofUnion? c name branches = some u) : Fresh u := by
  unfold ofUnion? at h
  obtain ⟨interfaces, -, hu⟩ := Option.bind_eq_some_iff.mp h
  obtain rfl := Option.some.inj hu
  exact ⟨rfl, rfl, rfl, by simp [reindex]⟩

theorem className_of_ofMemberUnion? {c : Context} {model : String} {member : Option String}
    {s : Schema} {u : Model} (h : ofMemberUnion? c model member s = some u) :
    u.className = c.conventions.modelName u.name := by
  obtain ⟨kind, branches, -, ho⟩ := ofMemberUnion?_eq_some h
  rw [(of_ofUnion? ho).2.1, (of_ofUnion? ho).1]

end Model

namespace ModelMap

/-- The models made for unions, in the order in which they are made. -/
def unions (c : Context) : List Model :=
  c.schemas.flatMap fun e => (Model.ofSchema c e.1 e.2).value.unions

theorem exists_ofUnion? {c : Context} {u : Model} (h : u ∈ unions c) :
    ∃ name branches, Model.ofUnion? c name branches = some u := by
  obtain ⟨e, -, hu⟩ := List.mem_flatMap.mp h
  exact Model.exists_ofUnion?_of_mem_unions hu

/-- The models of the named schemas. -/
def named (c : Context) : ModelMap :=
  c.schemas.map fun e => (e.1, (Model.ofSchema c e.1 e.2).value.value)

theorem lookup?_named (c : Context) (name : String) :
    Entries.lookup? name (named c) =
      (c.schema? name).map fun s => (Model.ofSchema c name s).value.value :=
  Entries.lookup?_map name (fun n s => (Model.ofSchema c n s).value.value) c.schemas

theorem keys_named (c : Context) : Entries.keys (named c) = Entries.keys c.schemas :=
  Entries.keys_map (fun n s => (Model.ofSchema c n s).value.value) c.schemas

theorem value_ofSchemas (c : Context) :
    (ofSchemas c).value = (unions c).foldl addFree (Entries.ofList (named c)) := by
  simp only [ofSchemas, Noted.value_bind, Noted.value_pure, Noted.value_mapList, List.map_map,
    List.flatMap_map]
  rfl

theorem lookup?_addFree (models : ModelMap) (u : Model) (name : String) :
    Entries.lookup? name (addFree models u) =
      (Entries.lookup? name models).or (if u.name = name then some u else none) := by
  unfold addFree
  by_cases hc : u.name ∈ Entries.keys models
  · rw [if_pos (Entries.contains_iff.mpr hc)]
    by_cases hn : u.name = name
    · obtain ⟨m, hm⟩ := Entries.exists_lookup?_of_mem_keys hc
      rw [← hn, hm, Option.some_or]
    · rw [if_neg hn, Option.or_none]
  · rw [if_neg (fun h => hc (Entries.contains_iff.mp h))]
    rw [Entries.insert_of_not_mem u hc, Entries.lookup?_append]
    rfl

theorem lookup?_foldl_addFree (us : List Model) (models : ModelMap) (name : String) :
    Entries.lookup? name (us.foldl addFree models) =
      (Entries.lookup? name models).or (us.find? fun u => u.name == name) := by
  induction us generalizing models with
  | nil => simp
  | cons u us ih =>
    rw [List.foldl_cons, ih, lookup?_addFree, Option.or_assoc, List.find?_cons]
    by_cases h : u.name = name
    · simp [h]
    · have hne : (u.name == name) = false := by simpa using h
      simp [h, hne]

theorem nodup_keys_addFree {models : ModelMap} (u : Model) (hn : (Entries.keys models).Nodup) :
    (Entries.keys (addFree models u)).Nodup := by
  unfold addFree
  split
  · exact hn
  · exact Entries.nodup_keys_insert _ _ hn

theorem nodup_keys_ofSchemas (c : Context) : (Entries.keys (ofSchemas c).value).Nodup := by
  rw [value_ofSchemas]
  have h := Entries.nodup_keys_ofList (named c)
  generalize Entries.ofList (named c) = models at h
  induction unions c generalizing models with
  | nil => exact h
  | cons u us ih => exact ih _ (nodup_keys_addFree u h)

/-- The model under a name is that of the schema of the name, and without one the first union that
was given the name. -/
theorem lookup?_ofSchemas {c : Context} (hd : (Entries.keys c.schemas).Nodup) (name : String) :
    Entries.lookup? name (ofSchemas c).value =
      ((c.schema? name).map fun s => (Model.ofSchema c name s).value.value).or
        ((unions c).find? fun u => u.name == name) := by
  rw [value_ofSchemas, Entries.ofList_eq_self (by rwa [keys_named]), lookup?_foldl_addFree,
    lookup?_named]

/-- A model of the map is that of a named schema or one made for a union. -/
theorem schema_or_union {c : Context} (hd : (Entries.keys c.schemas).Nodup) {name : String}
    {m : Model} (h : Entries.lookup? name (ofSchemas c).value = some m) :
    (∃ s, c.schema? name = some s ∧ m = (Model.ofSchema c name s).value.value) ∨
      c.schema? name = none ∧ m ∈ unions c ∧ m.name = name := by
  rw [lookup?_ofSchemas hd] at h
  cases hs : c.schema? name with
  | some s =>
    rw [hs, Option.map_some, Option.some_or] at h
    exact .inl ⟨s, rfl, (Option.some.inj h).symm⟩
  | none =>
    rw [hs, Option.map_none, Option.none_or] at h
    exact .inr ⟨rfl, List.mem_of_find?_eq_some h, by simpa using List.find?_some h⟩

end ModelMap
end ApiResolution
