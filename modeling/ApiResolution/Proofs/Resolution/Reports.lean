import ApiResolution.Proofs.Operation.Reports
import ApiResolution.Proofs.Resolution.Buckets

/-!
What a resolution reports of references that it cannot resolve. A missing component is reported
exactly if a part that some operation uses leads to it over few links
(`missing_mem_diagnostics_iff`), and every other unresolved reference is one to a schema
(`ofSchema_or_missing`). So of a chain of references that cannot be followed nothing is reported
unless it ends at a component that is missing and near to a part that is used
(`reports_iff_ofDocument`): nothing of a circle, although what is on it is left out
(`left_out_of_circle`), and nothing of references between security schemes.
-/

namespace ApiResolution

/-- The parts of a section that the operations of a document use. -/
def Context.Uses (c : Context) (s : ComponentSection) (part : OrReference s.Object) : Prop :=
  ∃ x ∈ c.document.operations, x.Uses c s part

/-- The report is of a schema. -/
def Diagnostic.OfSchema (e : Diagnostic) : Prop :=
  e = .unnamed e.location ∨ ∃ name, e = .undefined name e.location

namespace Resolution

variable {o : Options} {v : Conventions} {d : Document} {r : Resolution}

theorem reports_parts (h : (parts o v d).value = .ok r) :
    (parts o v d).reports = (Buckets.ofDocument (context o v d) r.models).reports := by
  obtain ⟨hm, -⟩ := of_parts h
  have hmodels : (ModelMap.ofDocument ⟨o, v, (distinctNames o d).value⟩).value = r.models :=
    hm.symm
  unfold parts
  simp only [Noted.reports_bind, reports_distinctNames, ModelMap.reports_ofDocument,
    List.nil_append, hmodels]
  rw [context, List.append_right_eq_self]
  split
  · rfl
  · rw [Noted.reports_bind, SecurityScheme.reports_ofDocument, List.nil_append]
    split <;> rfl

/-- What a resolution reports of components is noted while the parts that its operations use are
followed. -/
theorem mem_reports_iff (h : ofDocument o v d = .ok r) {note : Note} :
    note ∈ (parts o v d).reports ↔ ∃ s part, (context o v d).Uses s part ∧
      note ∈ ((context o v d).component? s part).notes := by
  obtain ⟨made, hmade, hr⟩ := exists_parts_of_ofDocument h
  have hmodels : made.models = r.models := by rw [hr]
  obtain ⟨os, hos, -⟩ := exists_run_ofDocument h
  have hbuilt : ∀ x ∈ (context o v d).document.operations,
      ∃ op, x.built (context o v d) r.models = .ok op := by
    intro x hx
    obtain ⟨op, -, hop⟩ := (List.mapM_eq_ok_iff.mp hos).exists_of_mem_left hx
    exact ⟨op, hop⟩
  rw [reports_parts hmade, hmodels, Buckets.ofDocument,
    Buckets.reports_addDeclared (of_ofDocument h).operations, List.mem_flatMap]
  constructor
  · rintro ⟨x, hx, hnote⟩
    obtain ⟨op, hop⟩ := hbuilt x hx
    obtain ⟨s, part, huse, hnote⟩ := (DeclaredOperation.mem_reports_of_built hop).mp hnote
    exact ⟨s, part, ⟨x, hx, huse⟩, hnote⟩
  · rintro ⟨s, part, ⟨x, hx, huse⟩, hnote⟩
    obtain ⟨op, hop⟩ := hbuilt x hx
    exact ⟨x, hx, (DeclaredOperation.mem_reports_of_built hop).mpr ⟨s, part, huse, hnote⟩⟩

/-- A missing component is reported exactly if fewer than `maxHops` links lead to a reference to it
from a part that some operation uses. -/
theorem missing_mem_diagnostics_iff (h : ofDocument o v d = .ok r) {s : ComponentSection}
    {target : String} :
    s.missing target ∈ r.diagnostics ↔ ∃ part, (context o v d).Uses s part ∧
      ∃ links < Context.maxHops, (context o v d).LeadsNowhere s links part target := by
  obtain ⟨made, -, hr⟩ := exists_parts_of_ofDocument h
  have hdiagnostics : r.diagnostics = (Log.addAll {} (parts o v d).notes).entries := by rw [hr]
  have hnoted : s.missing target ∈ r.diagnostics ↔
      .diagnostic (s.missing target) ∈ (parts o v d).reports := by
    rw [hdiagnostics]
    constructor
    · intro hmem
      rcases Log.noted_of_mem_addAll hmem with hmem | hmem | ⟨name, other, heq⟩
      · exact absurd hmem (by simp)
      · refine List.mem_filter.mpr ⟨hmem, ?_⟩
        exact Bool.and_eq_true_iff.mpr ⟨rfl, bne_iff_ne.mpr (s.missing_ne_unnamed target target)⟩
      · exact absurd heq (s.missing_ne_undefined target name other)
    · exact fun hmem => Log.mem_addAll_of_noted (List.mem_of_mem_filter hmem)
  rw [hnoted, mem_reports_iff h]
  simp only [Context.mem_notes_component?_iff]
  constructor
  · rintro ⟨s', part, huse, links, hlt, target', hnowhere, heq⟩
    obtain ⟨rfl, rfl⟩ := ComponentSection.missing_injective (Note.diagnostic.inj heq)
    exact ⟨part, huse, links, hlt, hnowhere⟩
  · rintro ⟨part, huse, links, hlt, hnowhere⟩
    exact ⟨s, part, huse, links, hlt, target, hnowhere, rfl⟩

/-- Every unresolved reference that is reported is of a schema or of a missing component. -/
theorem ofSchema_or_missing (h : ofDocument o v d = .ok r) {e : Diagnostic}
    (he : e ∈ r.diagnostics) (hkind : e.kind = .unresolvedReference) :
    e.OfSchema ∨ ∃ s target, e = ComponentSection.missing s target := by
  obtain ⟨made, -, rfl⟩ := exists_parts_of_ofDocument h
  rcases Log.noted_of_mem_addAll he with he | he | ⟨name, target, rfl⟩
  · exact absurd he (by simp)
  · by_cases hunnamed : e = .unnamed e.location
    · exact .inl (.inl hunnamed)
    · have hreport : .diagnostic e ∈ (parts o v d).reports := by
        refine List.mem_filter.mpr ⟨he, ?_⟩
        exact Bool.and_eq_true_iff.mpr ⟨beq_iff_eq.mpr hkind, bne_iff_ne.mpr hunnamed⟩
      obtain ⟨s, part, -, hnote⟩ := (mem_reports_iff h).mp hreport
      obtain ⟨-, -, target, -, heq⟩ := Context.mem_notes_component?_iff.mp hnote
      exact .inr ⟨s, target, Note.diagnostic.inj heq⟩
  · exact .inl (.inr ⟨name, rfl⟩)

/-- A reference of the chain from a part is reported as one to a missing component. -/
def Reports (r : Resolution) (c : Context) (s : ComponentSection) (part : OrReference s.Object) :
    Prop :=
  ∃ links target, c.LeadsTo s links part (.reference target) ∧ s.missing target ∈ r.diagnostics

/-- A part on a circle of references is left out, and nothing is reported of it. -/
theorem left_out_of_circle (h : ofDocument o v d = .ok r) {s : ComponentSection}
    {part : OrReference s.Object} {around : Nat}
    (hcircle : (context o v d).LeadsTo s (around + 1) part part) :
    ((context o v d).component? s part).value = none ∧ ¬ r.Reports (context o v d) s part := by
  refine ⟨Context.value_component?_of_circle hcircle, ?_⟩
  rintro ⟨links, target, hchain, hreported⟩
  obtain ⟨-, -, -, -, -, hmissing⟩ := (missing_mem_diagnostics_iff h).mp hreported
  exact Context.not_leadsNowhere_of_circle hcircle links target ⟨hchain, hmissing⟩

/-- Of a part that is used and left out, a reference is reported exactly if its chain ends at a
missing component and fewer than `maxHops` links lead there from a part that is used. No other
reference but those to schemas is reported, so none between security schemes is. -/
theorem reports_iff_ofDocument (h : ofDocument o v d = .ok r) :
    (∀ s part, (context o v d).Uses s part → ((context o v d).component? s part).value = none →
      (r.Reports (context o v d) s part ↔
        ∃ links target, (context o v d).LeadsNowhere s links part target ∧
          ∃ first, (context o v d).Uses s first ∧ ∃ near < Context.maxHops,
            (context o v d).LeadsTo s near first (.reference target))) ∧
    ∀ e ∈ r.diagnostics, e.kind = .unresolvedReference →
      e.OfSchema ∨ ∃ s target, e = ComponentSection.missing s target := by
  refine ⟨fun s part _ _ => ?_, fun e he hkind => ofSchema_or_missing h he hkind⟩
  constructor
  · rintro ⟨links, target, hchain, hreported⟩
    obtain ⟨first, huse, near, hnear, hfirst, hmissing⟩ :=
      (missing_mem_diagnostics_iff h).mp hreported
    exact ⟨links, target, ⟨hchain, hmissing⟩, first, huse, near, hnear, hfirst⟩
  · rintro ⟨links, target, ⟨hchain, hmissing⟩, first, huse, near, hnear, hfirst⟩
    exact ⟨links, target, hchain,
      (missing_mem_diagnostics_iff h).mpr ⟨first, huse, near, hnear, hfirst, hmissing⟩⟩

/-- An operation with a parameter that is missing. -/
def lostPets : Document :=
  { paths := [("/pets",
      { get := some
          { operationId := some "list"
            parameters := [.reference "#/components/parameters/Gone"] } })] }

/-- The missing parameter is reported. -/
theorem reports_lostPets :
    ∃ r, ofDocument {} (.neutral false) lostPets = .ok r ∧
      r.Reports (context {} (.neutral false) lostPets) .parameters
        (.reference "#/components/parameters/Gone") := by
  have hrun : (ofDocument {} (.neutral false) lostPets).toOption.isSome = true := by decide +kernel
  have hmissing : ((context {} (.neutral false) lostPets).target? .parameters
      "#/components/parameters/Gone").isNone = true := by decide +kernel
  have hout : ((context {} (.neutral false) lostPets).component? .parameters
      (.reference "#/components/parameters/Gone")).value.isNone = true := by decide +kernel
  obtain ⟨r, hr⟩ := Option.isSome_iff_exists.mp hrun
  have huse : (context {} (.neutral false) lostPets).Uses .parameters
      (.reference "#/components/parameters/Gone") :=
    ⟨_, List.mem_cons_self, .parameter List.mem_cons_self⟩
  refine ⟨r, ofDocument_eq_ok hr, ?_⟩
  refine ((reports_iff_ofDocument (ofDocument_eq_ok hr)).1 _ _ huse
    (Option.isNone_iff_eq_none.mp hout)).mpr ?_
  exact ⟨0, _, ⟨.here _, Option.isNone_iff_eq_none.mp hmissing⟩, _, huse, 0, by decide, .here _⟩

/-- An operation with a parameter that refers to itself, and a security scheme that is missing. -/
def circlingPets : Document :=
  { paths := [("/pets",
      { get := some
          { operationId := some "list"
            parameters := [.reference "#/components/parameters/Loop"] } })]
    components :=
      { parameters := [("Loop", .reference "#/components/parameters/Loop")]
        securitySchemes := [("key", .reference "#/components/securitySchemes/gone")] } }

/-- The parameter and the scheme are left out, and nothing is reported. -/
theorem not_reports_circlingPets :
    ∃ r, ofDocument {} (.neutral false) circlingPets = .ok r ∧
      (context {} (.neutral false) circlingPets).Uses .parameters
        (.reference "#/components/parameters/Loop") ∧
      ((context {} (.neutral false) circlingPets).component? .parameters
        (.reference "#/components/parameters/Loop")).value = none ∧
      (∀ e ∈ r.operations, ∀ x ∈ e.2, x.allParams.length = 0) ∧ r.security = [] ∧
      r.diagnostics = [] := by
  have hrun : (ofDocument {} (.neutral false) circlingPets).toOption.map
      (fun r => (r.operations.all fun e => e.2.all fun x => x.allParams.length = 0, r.security,
        r.diagnostics)) = some (true, [], []) := by decide +kernel
  have hout : ((context {} (.neutral false) circlingPets).component? .parameters
      (.reference "#/components/parameters/Loop")).value.isNone = true := by decide +kernel
  obtain ⟨r, hr, hrun⟩ := Option.map_eq_some_iff.mp hrun
  obtain ⟨hall, hrest⟩ := Prod.mk.inj hrun
  obtain ⟨hsecurity, hdiagnostics⟩ := Prod.mk.inj hrest
  refine ⟨r, ofDocument_eq_ok hr, ⟨_, List.mem_cons_self, .parameter List.mem_cons_self⟩,
    Option.isNone_iff_eq_none.mp hout, ?_, hsecurity, hdiagnostics⟩
  simpa using hall

end Resolution

end ApiResolution
