import ApiResolution.Proofs.Model.Composites
import ApiResolution.Proofs.Property.Enums

/-!
The members of the models of a document in the end. Without inheritance no model is linked, so none
loses an enum to its parent, and each is that of its schema with named enum members
(`lookup?_ofDocument_of_not_inheritance`). The list of all members is kept whatever the mode
(`exists_allVars_ofDocument`). Members are compared up to the marks of their places in lists.
-/

namespace ApiResolution

namespace Property

/-- A property without the mark of its place in a list. -/
def unmarked (p : Property) : Property := { p with hasMore := false }

theorem map_unmarked_markHasMore (ps : List Property) :
    (markHasMore ps).map unmarked = ps.map unmarked := by
  rw [markHasMore_eq]
  refine map_setMarks ?_ ps
  exact fun _ _ => rfl

/-- Properties that are settled in the same way have the same names. -/
theorem map_baseName_of_settled {ps qs : List Property} (h : ps.map settled = qs.map settled) :
    ps.map (·.baseName) = qs.map (·.baseName) := by
  have hnames := congrArg (List.map (·.baseName)) h
  simpa [Function.comp_def] using hnames

/-- Naming the members of an enum does not look at the mark. -/
theorem unmarked_nameIfEnum (v : Conventions) (p : Property) :
    (nameIfEnum v p).unmarked = nameIfEnum v p.unmarked :=
  (nameIfEnum_setHasMore v false p).symm

theorem map_unmarked_nameIfEnum (v : Conventions) (ps : List Property) :
    (ps.map (nameIfEnum v)).map unmarked = (ps.map unmarked).map (nameIfEnum v) := by
  rw [List.map_map, List.map_map]
  exact List.map_congr_left fun p _ => unmarked_nameIfEnum v p

end Property

namespace Model

/-- The member of a model in the end, up to its mark. -/
def finishedMember (c : Context) (model : String) (required : List String) (name : String)
    (s : Schema) : Property :=
  (Property.nameIfEnum c.conventions (member c model required name s).value.value).unmarked

theorem allVars_ofSchema (c : Context) (name : String) (s : Schema) :
    (ofSchema c name s).value.value.allVars =
      Property.markHasMore (members c name (allMembers c name s)).value.value := by
  rw [← (describes_described c name s).allVars]
  rfl

theorem vars_ofSchema (c : Context) (name : String) (s : Schema) :
    ∃ m, (ofSchema c name s).value.value.vars =
      Property.markHasMore ((members c name (listedMembers c name s)).value.value.map
        (c.conventions.finishProperty m)) := by
  rw [← (describes_described c name s).vars]
  exact ⟨_, rfl⟩

/-- The members that a model lists beside its own ones, up to their marks. -/
def allMembersOf (m : Model) : List Property := m.allVars.map Property.unmarked

theorem allMembersOf_dropVars (names : List String) (m : Model) :
    allMembersOf (dropVars names m) = allMembersOf m :=
  Property.map_unmarked_markHasMore m.allVars

theorem allMembersOf_nameEnums (v : Conventions) (m : Model) :
    allMembersOf (nameEnums v m) = (allMembersOf m).map (Property.nameIfEnum v) :=
  Property.map_unmarked_nameIfEnum v m.allVars

end Model

namespace ModelMap

open Model

variable {c : Context} {name : String} {s : Schema}

/-- A model that is not linked to a parent declares no enum again. -/
theorem redeclared_eq_nil {models : ModelMap} (h : ∀ e ∈ models, e.2.parentModel = none) :
    redeclared models = [] := by
  unfold redeclared
  rw [List.filterMap_eq_nil_iff]
  intro m hm
  obtain ⟨e, he, rfl⟩ := List.mem_map.mp hm
  rw [h e he]
  rfl

/-- Without inheritance, the model of a schema is the one in the end but for the names of enum
members. -/
theorem lookup?_ofDocument_of_not_inheritance (hd : c.document.DistinctSchemas)
    (hinheritance : c.options.supportsInheritance = false) (hs : c.schema? name = some s) :
    Entries.lookup? name (ofDocument c).value =
      some (nameEnums c.conventions (ofSchema c name s).value.value) := by
  have hnone :
      redeclared (Entries.mapValues (nameEnums c.conventions) (ofSchemas c).value) = [] := by
    refine redeclared_eq_nil fun e he => ?_
    obtain ⟨e', he', rfl⟩ := List.mem_map.mp he
    exact (rfl : _ = e'.2.parentModel).trans (fresh_ofSchemas e' he').parentModel
  rw [value_ofDocument, hinheritance, if_neg Bool.false_ne_true, dropInheritedEnums, hnone,
    List.foldl_nil, Entries.lookup?_mapValues, lookup?_ofSchemas hd, hs]
  rfl

/-- Without inheritance a model has in the end exactly the members that its schema lists. -/
theorem exists_vars_ofDocument (hd : c.document.DistinctSchemas)
    (hinheritance : c.options.supportsInheritance = false) (hv : KeepsMembers c.conventions)
    (hs : c.schema? name = some s) :
    ∃ m, Entries.lookup? name (ofDocument c).value = some m ∧
      m.vars.map Property.unmarked = (listedMembers c name s).properties.map fun e =>
        finishedMember c name (listedMembers c name s).required e.1 e.2 := by
  refine ⟨_, lookup?_ofDocument_of_not_inheritance hd hinheritance hs, ?_⟩
  obtain ⟨m, hvars⟩ := vars_ofSchema c name s
  have hkeeps : c.conventions.finishProperty m = id := funext (hv m)
  calc ((ofSchema c name s).value.value.vars.map (Property.nameIfEnum c.conventions)).map
        Property.unmarked
      = ((members c name (listedMembers c name s)).value.value.map
          (Property.nameIfEnum c.conventions)).map Property.unmarked := by
        rw [hvars, hkeeps, List.map_id, Property.map_unmarked_nameIfEnum,
          Property.map_unmarked_markHasMore, Property.map_unmarked_nameIfEnum]
    _ = _ := by
        rw [vars_members, List.map_map, List.map_map]
        rfl

/-- Its members have exactly the names that its schema lists, as long as the conventions keep the
names of finished members. -/
theorem exists_names_ofDocument (hd : c.document.DistinctSchemas)
    (hinheritance : c.options.supportsInheritance = false)
    (hv : ∀ m p, (c.conventions.finishProperty m p).baseName = p.baseName)
    (hs : c.schema? name = some s) :
    ∃ m, Entries.lookup? name (ofDocument c).value = some m ∧
      m.vars.map (·.baseName) = Entries.keys (listedMembers c name s).properties := by
  refine ⟨_, lookup?_ofDocument_of_not_inheritance hd hinheritance hs, ?_⟩
  obtain ⟨m, hvars⟩ := vars_ofSchema c name s
  calc (nameEnums c.conventions (ofSchema c name s).value.value).vars.map (·.baseName)
      = (ofSchema c name s).value.value.vars.map (·.baseName) :=
        Property.map_baseName_of_settled (Property.map_settled_nameIfEnum _ _)
    _ = ((members c name (listedMembers c name s)).value.value.map
          (c.conventions.finishProperty m)).map (·.baseName) := by
        rw [hvars]
        exact Property.map_baseName_of_settled (Property.map_settled_markHasMore _)
    _ = _ := by
        rw [vars_members, List.map_map, List.map_map, Entries.keys]
        refine List.map_congr_left fun e _ => ?_
        exact (hv m _).trans (baseName_member c name _ e.1 e.2)

/-- No stage changes which members a model lists beside its own ones; those that are enums get the
names of their members. -/
theorem allMembersOf_ofDocument (c : Context) (name : String) :
    (Entries.lookup? name (ofDocument c).value).map allMembersOf =
      (Entries.lookup? name (ofSchemas c).value).map fun m =>
        (allMembersOf m).map (Property.nameIfEnum c.conventions) := by
  rw [value_ofDocument, dropInheritedEnums,
    Entries.lookup?_foldl_modify allMembersOf (fun e : String × List String => e.1)
      (fun e => dropVars e.2) (fun e => allMembersOf_dropVars e.2),
    Entries.lookup?_mapValues, Option.map_map]
  have hnamed : allMembersOf ∘ nameEnums c.conventions =
      fun m => (allMembersOf m).map (Property.nameIfEnum c.conventions) :=
    funext (allMembersOf_nameEnums c.conventions)
  rw [hnamed]
  split
  · rw [lookup?_link, Option.map_map]
    rfl
  · rfl

/-- In the end a model lists all members that its schema collects. -/
theorem exists_allVars_ofDocument (hd : c.document.DistinctSchemas) (hs : c.schema? name = some s) :
    ∃ m, Entries.lookup? name (ofDocument c).value = some m ∧
      m.allVars.map Property.unmarked = (allMembers c name s).properties.map fun e =>
        finishedMember c name (allMembers c name s).required e.1 e.2 := by
  have hstages := allMembersOf_ofDocument c name
  rw [lookup?_ofSchemas hd, hs, Option.map_some, Option.some_or, Option.map_some] at hstages
  obtain ⟨m, hm, hall⟩ := Option.map_eq_some_iff.mp hstages
  refine ⟨m, hm, ?_⟩
  calc m.allVars.map Property.unmarked
      = (((ofSchema c name s).value.value.allVars).map Property.unmarked).map
          (Property.nameIfEnum c.conventions) := hall
    _ = ((members c name (allMembers c name s)).value.value.map
          (Property.nameIfEnum c.conventions)).map Property.unmarked := by
        rw [allVars_ofSchema, Property.map_unmarked_markHasMore, Property.map_unmarked_nameIfEnum]
    _ = _ := by
        rw [vars_members, List.map_map, List.map_map]
        rfl

end ModelMap
end ApiResolution
