import ApiResolution.Proofs.Model.Composites
import ApiResolution.Proofs.Model.Notes
import ApiResolution.Proofs.Operation.Payloads

/-!
The type names that properties refer to. A name comes from a reference to a schema, from a
combination that declares its model name, or from the model made for a union. References to schemas
that are not defined are noted, so a resolution without a diagnostic of an unresolved reference has
a model for every name of the first kind (`hasClass_of_complexType`).
-/

namespace ApiResolution

/-- Some model has the type name. -/
def ModelMap.HasClass (models : ModelMap) (t : String) : Prop :=
  ∃ name m, Entries.lookup? name models = some m ∧ m.className = t

/-- A combination in the document declares a model of the type name. -/
def Context.DeclaresClass (c : Context) (t : String) : Prop :=
  ∃ s name, c.document.Occurs s ∧ s.isComposed = true ∧
    s.extensionText? "x-model-name" = some name ∧ c.conventions.modelName name = t

namespace Context

variable {c : Context} {notes : List Note} {unicode : Bool}

/-- The type name has a model, or a combination declares it. -/
def Provides (c : Context) (t : String) : Prop :=
  (ModelMap.ofDocument c).value.HasClass t ∨ c.DeclaresClass t

/-- A name with which a schema of the document is tagged is provided, unless it was noted as
undefined. -/
theorem provides_of_typeTag (hd : c.document.DistinctSchemas) (hclean : Note.AllDefined notes)
    {s : Schema} (hs : c.document.Occurs s) {name : String}
    (ht : s.typeTag c.self = .reference name) (hn : (c.typeTag s).notes ⊆ notes) :
    c.Provides (c.conventions.modelName name) := by
  rcases Schema.typeTag_eq_reference ht with ⟨target, htarget⟩ | ⟨hcomposed, hname⟩
  · cases hl : c.schema? name with
    | none =>
      have hmem := undefinedSchema_mem_notes_typeTag htarget ht hl
      exact absurd (hn hmem) (hclean name target)
    | some found =>
      obtain ⟨m, hm, -, hclass⟩ := ModelMap.exists_schema_model hd hl
      exact .inl ⟨name, m, hm, hclass⟩
  · exact .inr ⟨s, name, hs, hcomposed, hname, rfl⟩

/-- So is the type name at every level of the property of a schema. -/
theorem provides_of_built (hd : c.document.DistinctSchemas) (hclean : Note.AllDefined notes)
    (hv : c.conventions = .neutral unicode) {s : Schema} (hs : c.document.Occurs s) {name : String}
    {built : Noted Property} (hb : Property.Built c name s built) (hn : built.notes ⊆ notes)
    {q : Property} (hq : q ∈ built.value.levels) {t : String} (ht : q.complexType = some t) :
    c.Provides t := by
  obtain ⟨model, hmodel, rfl, hnotes⟩ := hb.reference_of_complexType hv hq ht
  exact provides_of_typeTag hd hclean hs.innermost hmodel fun n hmem => hn (hnotes hmem)

/-- A property typed like that of a schema and then retyped for a union refers to the model of the
union. -/
theorem provides_of_toUnion (hd : c.document.DistinctSchemas) (hclean : Note.AllDefined notes)
    (hv : c.conventions = .neutral unicode) {s : Schema} (hs : c.document.Occurs s) {name : String}
    (hn : (Property.ofSchema c name s).notes ⊆ notes) {p : Property}
    (hp : p.levels.map (·.complexType) =
      (Property.ofSchema c name s).value.levels.map (·.complexType))
    (hformed : Property.Formed c.conventions p) (union : Option Model) {q : Property}
    (hq : q ∈ (Property.toUnion c.conventions p union).levels) {t : String}
    (ht : q.complexType = some t) :
    c.Provides t ∨ ∃ u, union = some u ∧ t = c.conventions.modelName u.className := by
  cases union with
  | none =>
    obtain ⟨q', hq', ht'⟩ := Property.exists_level_of_complexTypes_eq hp hq
    exact .inl (provides_of_built hd hclean hv hs (Property.built_ofSchema c name s) hn hq'
      (ht'.trans ht))
  | some u =>
    have htype := (Property.toUnion_some_spec c.conventions p u).2.2.2 hformed q hq
    rw [ht, Property.modelOfType] at htype
    split at htype
    · exact absurd htype (by simp)
    · refine .inr ⟨u, rfl, ?_⟩
      rw [Option.some.inj htype, hv, Conventions.typeName_reference_neutral]

/-- What a level of a member refers to is provided, or the member stands for a union. -/
theorem provides_of_member (hd : c.document.DistinctSchemas) (hclean : Note.AllDefined notes)
    (hv : c.conventions = .neutral unicode) {e : String × Schema} (hs : c.document.Occurs e.2)
    (hn : (Property.ofSchema c e.1 e.2).notes ⊆ notes) {owner : String} {required : List String}
    {p : Property} (hp : (Model.member c owner required e.1 e.2).value.value.settled = p.settled)
    {q : Property} (hq : q ∈ p.levels) {t : String} (ht : q.complexType = some t) :
    c.Provides t ∨ ∃ u, Model.ofMemberUnion? c owner (some e.1) e.2 = some u ∧
      p.composedModel = some u.name ∧ t = c.conventions.modelName u.className := by
  obtain ⟨q', hq', ht'⟩ := Property.exists_level_of_complexTypes_eq
    (Property.complexTypes_of_settled_eq hp.symm) hq
  have hcomposed := congrArg (·.composedModel) hp
  simp only [Property.composedModel_settled] at hcomposed
  rw [Model.value_member_toUnion] at hq' hcomposed
  have hspec := Property.setRequired_spec c.conventions (Property.ofSchema c e.1 e.2).value
    (required.contains e.1)
  refine (provides_of_toUnion hd hclean hv hs hn hspec.1
    (hspec.2 (Property.built_ofSchema c e.1 e.2).formed) _ hq' (ht'.trans ht)).imp id ?_
  rintro ⟨u, hu, rfl⟩
  refine ⟨u, hu, ?_, rfl⟩
  rw [← hcomposed, hu]
  exact (Property.toUnion_some_spec _ _ u).2.1

/-- A property that stands for a union of the document refers to a model, unless identifiers go
beyond ASCII and the type name of the union is not its own. -/
theorem hasClass_of_union (hd : c.document.DistinctSchemas) (hv : c.conventions = .neutral unicode)
    {owner : String} {member : Option String} {s : Schema} {u : Model}
    (hu : Model.ofMemberUnion? c owner member s = some u) (hmem : u ∈ ModelMap.unions c) :
    (ModelMap.ofDocument c).value.HasClass (c.conventions.modelName u.className) ∨
      c.conventions.modelName (c.conventions.modelName u.name) =
          c.conventions.modelName u.className ∧
        unicode = true ∧ ¬ c.conventions.KeepsTypeName u.name := by
  rw [Model.className_of_ofMemberUnion? hu]
  by_cases hkept : c.conventions.KeepsTypeName u.name
  · obtain ⟨m, hm, hclass, -⟩ := ModelMap.exists_union_model hd hmem
    exact .inl ⟨u.name, m, hm, hclass.trans hkept.symm⟩
  · refine .inr ⟨rfl, ?_, hkept⟩
    rw [hv] at hkept
    exact eq_true_of_ne_false fun hascii => hkept (Conventions.keepsTypeName_of_ascii hascii u.name)

/-- A member that a schema lists refers to what is provided, unless it stands for such a union. -/
theorem provides_of_listed (hd : c.document.DistinctSchemas) (hclean : Note.AllDefined notes)
    (hv : c.conventions = .neutral unicode) (hn : (ModelMap.ofDocument c).notes ⊆ notes)
    {owner : String} {s : Schema} (hs : c.schema? owner = some s) {e : String × Schema}
    (he : e ∈ (Model.listedMembers c owner s).properties) {required : List String} {p : Property}
    (hp : (Model.member c owner required e.1 e.2).value.value.settled = p.settled)
    {q : Property} (hq : q ∈ p.levels) {t : String} (ht : q.complexType = some t) :
    c.Provides t ∨ ∃ comp, p.composedModel = some comp ∧
      c.conventions.modelName (c.conventions.modelName comp) = t ∧
      unicode = true ∧ ¬ c.conventions.KeepsTypeName comp := by
  have hoccurs := Model.occurs_of_mem_listedMembers
    (Document.occurs_of_mem_schemas (Entries.mem_of_lookup? hs)) he
  have hnotes : (Property.ofSchema c e.1 e.2).notes ⊆ notes := fun n hmem =>
    hn (ModelMap.notes_subset_ofDocument hs (Model.notes_subset_of_listed he hmem))
  rcases provides_of_member hd hclean hv hoccurs hnotes hp hq ht with hprovides | ⟨u, hu, hc, rfl⟩
  · exact .inl hprovides
  · exact (hasClass_of_union hd hv hu (Model.mem_unions_of_listed hs he hu)).imp .inl
      fun hmisnamed => ⟨u.name, hc, hmisnamed⟩

/-- The property of an array or a map as a whole refers to what is provided, with the same
exception. -/
theorem provides_of_whole (hd : c.document.DistinctSchemas) (hclean : Note.AllDefined notes)
    (hv : c.conventions = .neutral unicode) (hn : (ModelMap.ofDocument c).notes ⊆ notes)
    {owner : String} {s : Schema} (hs : c.schema? owner = some s) {p : Property}
    (hp : Model.wholeProperty? c owner s = some p) {q : Property} (hq : q ∈ p.levels) {t : String}
    (ht : q.complexType = some t) :
    c.Provides t ∨ ∃ comp, p.composedModel = some comp ∧
      c.conventions.modelName (c.conventions.modelName comp) = t ∧
      unicode = true ∧ ¬ c.conventions.KeepsTypeName comp := by
  have hnotes : (Property.ofSchema c owner s).notes ⊆ notes := fun n hmem =>
    hn (ModelMap.notes_subset_ofDocument hs (Model.notes_subset_of_whole hp hmem))
  unfold Model.wholeProperty? at hp
  split at hp
  · next hcontainer =>
    obtain rfl := Option.some.inj hp
    rcases provides_of_toUnion hd hclean hv
      (Document.occurs_of_mem_schemas (Entries.mem_of_lookup? hs)) hnotes rfl
      (Property.built_ofSchema c owner s).formed _ hq ht with hprovides | ⟨u, hu, rfl⟩
    · exact .inl hprovides
    · refine (hasClass_of_union hd hv hu (Model.mem_unions_of_whole hs hcontainer hu)).imp .inl
        fun hmisnamed => ⟨u.name, ?_, hmisnamed⟩
      rw [hu]
      exact (Property.toUnion_some_spec _ _ u).2.1
  · exact absurd hp (by simp)

/-- The payload of a response refers to what is provided. -/
theorem provides_of_payload (hd : c.document.DistinctSchemas) (hclean : Note.AllDefined notes)
    (hv : c.conventions = .neutral unicode) {response : Response}
    (hr : response.Grounded c notes) {p : Property} (hp : response.schema = some p)
    {q : Property} (hq : q ∈ p.levels) {t : String} (ht : q.complexType = some t) :
    c.Provides t := by
  obtain ⟨s, hs, hsettled, hn⟩ := hr p hp
  obtain ⟨q', hq', ht'⟩ := Property.exists_level_of_complexTypes_eq
    (Property.complexTypes_of_settled_eq hsettled) hq
  exact provides_of_built hd hclean hv hs (Property.built_ofSchema c "response" s) hn hq'
    (ht'.trans ht)

end Context

namespace Resolution

/-- A property of a resolution: a member of a model, one of all its members, the property of an
array or a map as a whole, or the payload of a response. -/
inductive HasProperty (r : Resolution) (p : Property) : Prop
  | var {owner : String} {m : Model} (hm : Entries.lookup? owner r.models = some m)
      (hp : p ∈ m.vars)
  | allVar {owner : String} {m : Model} (hm : Entries.lookup? owner r.models = some m)
      (hp : p ∈ m.allVars)
  | whole {owner : String} {m : Model} (hm : Entries.lookup? owner r.models = some m)
      (hp : m.containerProperty = some p)
  | payload {bucket : String × List Operation} (hb : bucket ∈ r.operations) {o : Operation}
      (ho : o ∈ bucket.2) {response : Response} (hr : response ∈ o.responses)
      (hp : response.schema = some p)

/-- One of all the members of a model that its schema does not list itself. -/
def InheritsOnly (c : Context) (r : Resolution) (p : Property) : Prop :=
  ∃ owner m s, Entries.lookup? owner r.models = some m ∧ p ∈ m.allVars ∧
    c.schema? owner = some s ∧
    p.baseName ∉ Entries.keys (Model.listedMembers c owner s).properties

theorem MadeOf.provides_of_hasProperty {c : Context} {r : Resolution} {unicode : Bool}
    (hr : MadeOf c r) (hd : c.document.DistinctSchemas) (hv : c.conventions = .neutral unicode)
    (hclean : Diagnostic.hasKind .unresolvedReference r.diagnostics = false) {p : Property}
    (hp : r.HasProperty p) {q : Property} (hq : q ∈ p.levels) {t : String}
    (ht : q.complexType = some t) :
    c.Provides t ∨ ∃ comp, p.composedModel = some comp ∧
      c.conventions.modelName (c.conventions.modelName comp) = t ∧
      (unicode = true ∧ ¬ c.conventions.KeepsTypeName comp ∨ InheritsOnly c r p) := by
  obtain ⟨hmodels, hoperations, notes, hentries, hmn, hon⟩ := hr
  rw [hentries] at hclean
  replace hclean := Note.allDefined_of_hasKind hclean
  cases hp with
  | var hm hp =>
    rw [hmodels] at hm
    obtain ⟨s, hs, e, he, required, hep⟩ :=
      ModelMap.exists_listed_of_mem_vars hd (Model.keepsMembers_of_neutral hv) hm hp
    exact (Context.provides_of_listed hd hclean hv hmn hs he hep hq ht).imp id
      fun ⟨comp, hc, hname, hmisnamed⟩ => ⟨comp, hc, hname, .inl hmisnamed⟩
  | @allVar owner m hm hp =>
    have hm' := hm
    rw [hmodels] at hm'
    obtain ⟨s, hs, e, he, required, hep⟩ := ModelMap.exists_collected_of_mem_allVars hd hm' hp
    by_cases hk : p.baseName ∈ Entries.keys (Model.listedMembers c owner s).properties
    · have he' := Model.mem_listedMembers_of_mem_allMembers he
        (Model.baseName_of_settled_member hep ▸ hk)
      exact (Context.provides_of_listed hd hclean hv hmn hs he' hep hq ht).imp id
        fun ⟨comp, hc, hname, hmisnamed⟩ => ⟨comp, hc, hname, .inl hmisnamed⟩
    · have hoccurs := Model.occurs_of_mem_allMembers
        (Document.occurs_of_mem_schemas (Entries.mem_of_lookup? hs)) he
      have hnotes : (Property.ofSchema c e.1 e.2).notes ⊆ notes := fun n hmem =>
        hmn (ModelMap.notes_subset_ofDocument hs (Model.notes_subset_of_collected he hmem))
      refine (Context.provides_of_member hd hclean hv hoccurs hnotes hep hq ht).imp id ?_
      rintro ⟨u, hu, hc, rfl⟩
      exact ⟨u.name, hc, by rw [Model.className_of_ofMemberUnion? hu],
        .inr ⟨owner, m, s, hm, hp, hs, hk⟩⟩
  | whole hm hp =>
    rw [hmodels] at hm
    obtain ⟨s, hs, hwhole⟩ := ModelMap.exists_whole_of_container hd hm hp
    exact (Context.provides_of_whole hd hclean hv hmn hs hwhole hq ht).imp id
      fun ⟨comp, hc, hname, hmisnamed⟩ => ⟨comp, hc, hname, .inl hmisnamed⟩
  | payload hb ho hr hp =>
    exact .inl (Context.provides_of_payload hd hclean hv
      (Buckets.grounded_ofDocument hoperations hon _ hb _ ho _ hr) hp hq ht)

/-- In a resolution without a diagnostic of an unresolved reference, what a level of a property
refers to has a model, or a combination in the document declares it. The exception are properties
that stand for unions: where identifiers go beyond ASCII and the type name of the union is not its
own, and where a model only inherits the member. -/
theorem hasClass_of_complexType {o : Options} {d : Document} {r : Resolution}
    (hd : d.DistinctSchemas) (h : ofDocument o (.neutral o.allowUnicodeIdentifiers) d = .ok r)
    (hclean : Diagnostic.hasKind .unresolvedReference r.diagnostics = false) {p : Property}
    (hp : r.HasProperty p) {q : Property} (hq : q ∈ p.levels) {t : String}
    (ht : q.complexType = some t) :
    r.models.HasClass t ∨
      (context o (.neutral o.allowUnicodeIdentifiers) d).DeclaresClass t ∨
      ∃ comp, p.composedModel = some comp ∧
        (Conventions.neutral o.allowUnicodeIdentifiers).modelName
          ((Conventions.neutral o.allowUnicodeIdentifiers).modelName comp) = t ∧
        (o.allowUnicodeIdentifiers = true ∧
            ¬ (Conventions.neutral o.allowUnicodeIdentifiers).KeepsTypeName comp ∨
          InheritsOnly (context o (.neutral o.allowUnicodeIdentifiers) d) r p) := by
  have hmade := of_ofDocument h
  have hprovides := hmade.provides_of_hasProperty
    (distinctSchemas_context o (.neutral o.allowUnicodeIdentifiers) hd) rfl hclean hp hq ht
  rw [hmade.models, ← or_assoc]
  exact hprovides

theorem hasClass_ownerWith_nil :
    ∃ r p, ofDocument {} (.neutral false) (ownerWith []) = .ok r ∧
      Diagnostic.hasKind .unresolvedReference r.diagnostics = false ∧ r.HasProperty p ∧
      p.complexType = some "OneOfOwnerPet" ∧
      (r.models.HasClass "OneOfOwnerPet" ∨
        (context {} (.neutral false) (ownerWith [])).DeclaresClass "OneOfOwnerPet" ∨
        ∃ comp, p.composedModel = some comp ∧ (Conventions.neutral false).modelName
            ((Conventions.neutral false).modelName comp) = "OneOfOwnerPet" ∧
          (({} : Options).allowUnicodeIdentifiers = true ∧
              ¬ (Conventions.neutral false).KeepsTypeName comp ∨
            InheritsOnly (context {} (.neutral false) (ownerWith [])) r p)) := by
  have hrun : (ofDocument {} (.neutral false) (ownerWith [])).toOption.map (fun r =>
      (Diagnostic.hasKind .unresolvedReference r.diagnostics,
        ((Entries.lookup? "Owner" r.models).bind (·.vars.head?)).bind (·.complexType))) =
      some (false, some "OneOfOwnerPet") := by decide +kernel
  obtain ⟨r, hr, hfacts⟩ := Option.map_eq_some_iff.mp hrun
  replace hr := ofDocument_eq_ok hr
  obtain ⟨p, hp, htype⟩ := Option.bind_eq_some_iff.mp (congrArg Prod.snd hfacts)
  obtain ⟨m, hm, hp⟩ := Option.bind_eq_some_iff.mp hp
  have hproperty : r.HasProperty p := .var hm (List.mem_of_head? hp)
  have hclean := congrArg Prod.fst hfacts
  exact ⟨r, p, hr, hclean, hproperty, htype, hasClass_of_complexType (o := {}) (by decide) hr hclean
    hproperty (Property.mem_levels_self p) htype⟩

/-- An owner whose pet is one of a union that declares its model name. -/
def declaredUnion : Document :=
  { components := { schemas := [
      ("Owner", .ofShape (.object
        [("pet", { shape := .composed [] [.emptyObject] [] [] []
                   extensions := [("x-model-name", .string "Pet")] })]
        []))] } }

/-- The declared model name has no model although nothing was noted. -/
theorem not_hasClass_declaredUnion :
    ∃ r p, ofDocument {} (.neutral false) declaredUnion = .ok r ∧
      Diagnostic.hasKind .unresolvedReference r.diagnostics = false ∧ r.HasProperty p ∧
      p.complexType = some "Pet" ∧ ¬ r.models.HasClass "Pet" := by
  have hrun : (ofDocument {} (.neutral false) declaredUnion).toOption.map (fun r =>
      (Diagnostic.hasKind .unresolvedReference r.diagnostics,
        ((Entries.lookup? "Owner" r.models).bind (·.vars.head?)).bind (·.complexType),
        r.models.map (·.2.className))) = some (false, some "Pet", ["Owner"]) := by decide +kernel
  obtain ⟨r, hr, hfacts⟩ := Option.map_eq_some_iff.mp hrun
  replace hr := ofDocument_eq_ok hr
  obtain ⟨p, hp, htype⟩ := Option.bind_eq_some_iff.mp (congrArg (·.2.1) hfacts)
  obtain ⟨m, hm, hp⟩ := Option.bind_eq_some_iff.mp hp
  refine ⟨r, p, hr, congrArg Prod.fst hfacts, .var hm (List.mem_of_head? hp), htype, ?_⟩
  rintro ⟨name, m', hl, hclass⟩
  have hmem := List.mem_map_of_mem (f := fun e : String × Model => e.2.className)
    (Entries.mem_of_lookup? hl)
  have hclasses : r.models.map (·.2.className) = ["Owner"] := congrArg (·.2.2) hfacts
  rw [hclasses, hclass] at hmem
  exact absurd hmem (by decide)

end Resolution
end ApiResolution
