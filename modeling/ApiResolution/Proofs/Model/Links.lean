import ApiResolution.Proofs.Document.Renaming
import ApiResolution.Proofs.Model.Children
import ApiResolution.Proofs.Model.Finished
import ApiResolution.Proofs.Pointwise

/-!
The model map and its links. The map starts with one model for each schema, in the order of the
schemas, and the models of unions follow under names that no schema has (`models_ofDocument`).
`Model.LinksWithin` says that the links of a model lead to known models, that it is no child of its
own and that it lists no child twice. Linking establishes it (`linksWithin_link`) and the enum stages
keep it.
-/

namespace ApiResolution

/-- The links of a model lead to the given names, it is no child of its own, and no child is listed
twice. -/
structure Model.LinksWithin (names : List String) (m : Model) : Prop where
  parent : ∀ p ∈ m.parentModel, p ∈ names
  interface : ∀ i ∈ m.interfaceModels, i ∈ names
  child : ∀ k ∈ m.children, k ∈ names ∧ k ≠ m.name
  nodup : m.children.Nodup

theorem nodup_insertText (s : String) {ss : List String} (h : ss.Nodup) :
    (insertText s ss).Nodup := by
  unfold insertText
  split
  · exact h
  · next hs =>
    rw [List.contains_iff_mem] at hs
    rw [← List.concat_eq_append]
    exact h.concat hs

theorem nodup_insertTexts (more : List String) {ss : List String} (h : ss.Nodup) :
    (insertTexts more ss).Nodup := by
  unfold insertTexts
  induction more generalizing ss with
  | nil => exact h
  | cons s more ih => exact ih (nodup_insertText s h)

namespace ModelMap

variable {c : Context}

/-- Adding models under free names leaves the models before them, and what is added has other
names. -/
theorem exists_foldl_addFree (us : List Model) (models : ModelMap) :
    ∃ added, us.foldl addFree models = models ++ added ∧
      ∀ e ∈ added, e.1 ∉ Entries.keys models ∧ e.2 ∈ us := by
  induction us generalizing models with
  | nil => exact ⟨[], (List.append_nil _).symm, by simp⟩
  | cons u us ih =>
    obtain ⟨added, hadded, hmem⟩ := ih (addFree models u)
    by_cases hu : u.name ∈ Entries.keys models
    · have hsame : addFree models u = models := if_pos (Entries.contains_iff.mpr hu)
      rw [hsame] at hadded hmem
      refine ⟨added, by rw [List.foldl_cons, hsame, hadded], fun e he => ?_⟩
      exact ⟨(hmem e he).1, List.mem_cons_of_mem _ (hmem e he).2⟩
    · have hnew : addFree models u = models ++ [(u.name, u)] :=
        (if_neg fun h => hu (Entries.contains_iff.mp h)).trans (Entries.insert_of_not_mem u hu)
      rw [hnew] at hadded hmem
      refine ⟨(u.name, u) :: added, ?_, fun e he => ?_⟩
      · rw [List.foldl_cons, hnew, hadded, List.append_assoc, List.singleton_append]
      · rcases List.mem_cons.mp he with rfl | he
        · exact ⟨hu, List.mem_cons_self⟩
        · have hfresh := (hmem e he).1
          rw [Entries.keys_append, List.mem_append, not_or] at hfresh
          exact ⟨hfresh.1, List.mem_cons_of_mem _ (hmem e he).2⟩

/-- The models of the document stand where the models of its schemas and unions stood. -/
theorem forall₂_ofDocument (c : Context) :
    List.Forall₂ (fun e f => f.1 = e.1 ∧ Model.Keeps e.2 f.2) (ofSchemas c).value
      (ofDocument c).value :=
  Entries.forall₂_of_lookup? (keys_ofDocument c) (nodup_keys_ofSchemas c)
    fun _ _ h => keeps_ofDocument h

/-- The map starts with the models of the schemas, and the models of unions follow under other
names. -/
theorem models_ofDocument (hd : (Entries.keys c.schemas).Nodup) :
    ∃ named composites, (ofDocument c).value = named ++ composites ∧
      List.Forall₂ (fun e f => f.1 = e.1 ∧ Model.Keeps (Model.ofSchema c e.1 e.2).value.value f.2)
        c.schemas named ∧
      ∀ f ∈ composites, f.1 ∉ Entries.keys c.schemas ∧ ∃ u ∈ unions c, Model.Keeps u f.2 := by
  obtain ⟨added, hadded, hunions⟩ := exists_foldl_addFree (unions c) (named c)
  have hbuilt : (ofSchemas c).value = named c ++ added := by
    rw [value_ofSchemas, Entries.ofList_eq_self (by rwa [keys_named]), hadded]
  have hstages := forall₂_ofDocument c
  rw [hbuilt] at hstages
  obtain ⟨first, rest, hsplit, hnamed, hcomposites⟩ := hstages.exists_append
  refine ⟨first, rest, hsplit, List.forall₂_map_left_iff.mp hnamed, fun f hf => ?_⟩
  · obtain ⟨e, he, hkey, hkeeps⟩ := hcomposites.exists_of_mem_right hf
    rw [hkey, ← keys_named]
    exact ⟨(hunions e he).1, e.2, (hunions e he).2, hkeeps⟩

/-! ## Links -/

theorem linksWithin_link {models : ModelMap} (hn : (Entries.keys models).Nodup)
    (hname : ∀ name m, Entries.lookup? name models = some m → m.name = name)
    (hchildren : ∀ name m, Entries.lookup? name models = some m → m.children = []) :
    ∀ e ∈ (link models).value, e.2.LinksWithin (Entries.keys models) := by
  rintro ⟨name, p⟩ he
  have hp : Entries.lookup? name (link models).value = some p :=
    Entries.lookup?_of_mem (by rwa [keys_link]) he
  have hlinked := hp
  rw [lookup?_link] at hlinked
  obtain ⟨m, hm, hmp⟩ := Option.map_eq_some_iff.mp hlinked
  constructor
  case parent =>
    intro q hq
    rw [← hmp] at hq
    obtain ⟨-, hq⟩ := Option.filter_eq_some_iff.mp hq
    exact Entries.contains_iff.mp hq
  case interface =>
    intro i hi
    rw [← hmp] at hi
    exact Entries.contains_iff.mp (List.mem_filter.mp hi).2
  case child =>
    intro k hk
    obtain ⟨between, hl, -⟩ := (mem_children_link_iff hn hname hchildren hp).mp hk
    have hpname : p.name = name := by
      rw [← hmp]
      exact hname name m hm
    refine ⟨hl.climb.source_mem, fun hself => (List.nodup_cons.mp hl.nodup).1 ?_⟩
    rw [hself, hpname]
    exact List.mem_append_right _ List.mem_cons_self
  case nodup =>
    rw [← hmp, hchildren name m hm]
    exact nodup_insertTexts _ List.nodup_nil

theorem linksWithin_ofDocument (hd : c.document.DistinctSchemas) :
    ∀ e ∈ (ofDocument c).value, e.2.LinksWithin (Entries.keys (ofDocument c).value) := by
  have hbuilt : ∀ e ∈ (ofSchemas c).value, e.2.LinksWithin (Entries.keys (ofSchemas c).value) := by
    intro e he
    have hfresh := fresh_ofSchemas e he
    have hchildren := children_ofSchemas hd (Entries.lookup?_of_mem (nodup_keys_ofSchemas c) he)
    constructor
    · simp [hfresh.parentModel]
    · simp [hfresh.interfaceModels]
    · simp [hchildren]
    · simp [hchildren]
  rw [keys_ofDocument, value_ofDocument]
  refine forall_mem_dropInheritedEnums (P := Model.LinksWithin _) ?_ ?_
  · exact fun _ _ hm => ⟨hm.parent, hm.interface, hm.child, hm.nodup⟩
  refine Entries.forall_mem_mapValues (P := Model.LinksWithin (Entries.keys (ofSchemas c).value))
    (fun _ hm => ⟨hm.parent, hm.interface, hm.child, hm.nodup⟩) ?_
  split
  · exact linksWithin_link (nodup_keys_ofSchemas c) (fun _ _ => name_ofSchemas hd)
      fun _ _ => children_ofSchemas hd
  · exact hbuilt

end ModelMap

namespace Resolution

variable {o : Options} {v : Conventions} {d : Document} {r : Resolution}

/-- The schemas of a resolution are those of its document under their new names, in order. -/
theorem keys_schemas_context (hd : d.DistinctSchemas) :
    Entries.keys (context o v d).schemas = (Entries.keys d.components.schemas).map fun name =>
      if o.checkDuplicatedModelName then d.newName name else name := by
  rw [Context.schemas, context, value_distinctNames]
  split
  · exact Document.keys_withDistinctNames hd
  · exact (List.map_id _).symm

/-- The models of a resolution are one for each schema, in order and under its new name, followed by
models of unions under other names. Each model stands under its own name, and its links lead to
models of the resolution, never to itself as a child and to no child twice. -/
theorem complete_ofDocument (hd : d.DistinctSchemas) (h : ofDocument o v d = .ok r) :
    (∃ named composites, r.models = named ++ composites ∧
        Entries.keys named = ((Entries.keys d.components.schemas).map fun name =>
          if o.checkDuplicatedModelName then d.newName name else name) ∧
        List.Forall₂ (fun e f => f.1 = e.1 ∧
            Model.Keeps (Model.ofSchema (context o v d) e.1 e.2).value.value f.2)
          (context o v d).schemas named ∧
        ∀ f ∈ composites, f.1 ∉ Entries.keys named ∧
          ∃ u ∈ ModelMap.unions (context o v d), Model.Keeps u f.2) ∧
      (Entries.keys r.models).Nodup ∧
      ∀ e ∈ r.models, e.2.name = e.1 ∧ e.2.LinksWithin (Entries.keys r.models) := by
  have hdc := distinctSchemas_context o v hd
  rw [(of_ofDocument h).models]
  have hnodup : (Entries.keys (ModelMap.ofDocument (context o v d)).value).Nodup := by
    rw [ModelMap.keys_ofDocument]
    exact ModelMap.nodup_keys_ofSchemas _
  refine ⟨?_, hnodup, fun e he => ⟨?_, ModelMap.linksWithin_ofDocument hdc e he⟩⟩
  · obtain ⟨named, composites, hmodels, hnamed, hcomposites⟩ := ModelMap.models_ofDocument hdc
    have hkeys : Entries.keys named = Entries.keys (context o v d).schemas :=
      (hnamed.map_eq fun _ _ hef => hef.1.symm).symm
    refine ⟨named, composites, hmodels, hkeys.trans (keys_schemas_context hd), hnamed, ?_⟩
    rwa [hkeys]
  · obtain ⟨before, hb, hkeeps⟩ := ModelMap.keeps_ofDocument (Entries.lookup?_of_mem hnodup he)
    exact hkeeps.name.trans (ModelMap.name_ofSchemas hdc hb)

/-- Two animals that are each other's parents, a third one that is its own parent and differs from
another only by case, and an owner of one of the first two. -/
def knottedPets : Document :=
  { components := { schemas := [
      ("Cat", .ofShape (.composed [.reference "#/components/schemas/Dog"] [] [] [] [])),
      ("Dog", .ofShape (.composed [.reference "#/components/schemas/Cat"] [] [] [] [])),
      ("dog", .ofShape (.composed
        [.reference "#/components/schemas/dog", .reference "#/components/schemas/Cat"]
        [] [] [] [])),
      ("Owner", .ofShape (.object
        [("pet", .ofShape (.composed []
          [.reference "#/components/schemas/Cat", .reference "#/components/schemas/Dog"]
          [] [] []))]
        []))] } }

/-- The knot does not make a model its own child, and the union of the owner's pet comes last. -/
theorem complete_knottedPets :
    ∃ r named composites,
      ofDocument { supportsInheritance := true, checkDuplicatedModelName := true } (.neutral false)
        knottedPets = .ok r ∧
      knottedPets.DistinctSchemas ∧ r.models = named ++ composites ∧
      Entries.keys named = ["Cat", "Dog", "dog2", "Owner"] ∧
      Entries.keys r.models = ["Cat", "Dog", "dog2", "Owner", "OneOfOwnerPet"] ∧
      r.models.map (fun e => (e.2.parentModel, e.2.children, e.2.interfaceModels)) =
        [(some "Dog", ["Dog"], []), (some "Cat", ["Cat"], []), (some "dog2", [], ["Cat"]),
          (none, [], []), (none, [], ["Cat", "Dog"])] ∧
      ∀ e ∈ r.models, e.2.name = e.1 ∧ e.2.LinksWithin (Entries.keys r.models) := by
  have hrun : (ofDocument { supportsInheritance := true, checkDuplicatedModelName := true }
      (.neutral false) knottedPets).toOption.map (fun r => (Entries.keys r.models,
        r.models.map fun e => (e.2.parentModel, e.2.children, e.2.interfaceModels))) =
      some (["Cat", "Dog", "dog2", "Owner", "OneOfOwnerPet"],
        [(some "Dog", ["Dog"], []), (some "Cat", ["Cat"], []), (some "dog2", [], ["Cat"]),
          (none, [], []), (none, [], ["Cat", "Dog"])]) := by decide +kernel
  obtain ⟨r, hr, hfacts⟩ := Option.map_eq_some_iff.mp hrun
  replace hr := ofDocument_eq_ok hr
  have hd : knottedPets.DistinctSchemas := by decide
  obtain ⟨⟨named, composites, hmodels, hnamed, -⟩, -, hlinks⟩ := complete_ofDocument hd hr
  have hnames : ((Entries.keys knottedPets.components.schemas).map knottedPets.newName) =
      ["Cat", "Dog", "dog2", "Owner"] := by decide +kernel
  exact ⟨r, named, composites, hr, hd, hmodels, hnamed.trans hnames, congrArg Prod.fst hfacts,
    congrArg Prod.snd hfacts, hlinks⟩

end Resolution
end ApiResolution
