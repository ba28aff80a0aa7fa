import ApiResolution.Proofs.Operation.Modes
import ApiResolution.Proofs.Operation.Payloads
import ApiResolution.Proofs.Resolution.Failure

/-!
The composition mode of a resolution and its operations. A payload that refers to no schema is noted
as long as its containers are described (`maxDepth_lt_nesting`), so two modes fail alike or give the
same security schemes and, without a diagnostic of an unresolved reference, the same operations, up
to whether an operation refers to a model when its payload lies too deep
(`ofDocument_sameButReference`).
-/

namespace ApiResolution

namespace Property

variable {c : Context}

/-- A container refers to what its items refer to, and is nested one deeper if that is anything. -/
theorem referencedModel?_of_contents? {s items : Schema} {kind : ContainerKind} {name : String}
    (hs : s.contents? = some (kind, items)) (href : Response.referencedModel? c s = some name) :
    Response.referencedModel? c items = some name ∧ s.nesting = items.nesting + 1 := by
  cases Schema.contains_of_contents? hs with
  | array a items => exact ⟨href, rfl⟩
  | openArray a =>
    exact absurd href (by simp [Response.referencedModel?, Context.refName?, Schema.refName?])
  | map a value ps rs => exact ⟨href, rfl⟩
  | openMap a ps rs =>
    exact absurd href (by simp [Response.referencedModel?, Context.refName?, Schema.refName?])

theorem referencedModel?_of_contents?_eq_none {s : Schema} (hs : s.contents? = none) :
    Response.referencedModel? c s = c.refName? s := by
  rcases s with ⟨a, shape⟩
  cases shape with
  | array open? => exact absurd hs (by simp [Schema.contents?])
  | map open? ps rs => exact absurd hs (by simp [Schema.contents?])
  | _ => rfl

/-- A reference to no schema is noted for the property that is described around it, unless too many
containers lie between. -/
theorem undefinedSchema_mem_notes_ofSchemaAt {depth : Nat} {prop : String} {s : Schema}
    {name : String} (href : Response.referencedModel? c s = some name)
    (hs : c.schema? name = none) (hdepth : depth + s.nesting ≤ maxDepth) :
    ∃ target, .undefinedSchema name target ∈ (ofSchemaAt c depth prop s).notes := by
  revert href hdepth
  refine ofSchemaAt_induct (P := fun depth _ s built =>
    Response.referencedModel? c s = some name → depth + s.nesting ≤ maxDepth →
      ∃ target, .undefinedSchema name target ∈ built.notes) ?_ ?_ ?_ depth prop s
  · intro depth prop s hdeep _ hdepth
    exact absurd hdeep (by omega)
  · intro depth prop s _ hleaf href _
    rw [referencedModel?_of_contents?_eq_none hleaf] at href
    obtain ⟨⟨target, htarget⟩, htag⟩ := Context.of_refName? href
    rw [notes_leaf]
    exact ⟨target, Context.undefinedSchema_mem_notes_typeTag htarget htag hs⟩
  · intro depth prop s kind items inner built _ hcontents _ hinner hbuilt href hdepth
    -- A container takes one off the nesting and adds one to the depth, so the bound goes inside.
    obtain ⟨hitems, hnesting⟩ := referencedModel?_of_contents? hcontents href
    obtain ⟨target, hmem⟩ := hinner hitems (by omega)
    rw [hbuilt.notes]
    exact ⟨target, List.mem_append_right _ hmem⟩

end Property

namespace Operation

variable {c : Context} {notes : List Note}

theorem notes_payload_subset {code : String} {d : ResponseObject} {contentType : String}
    {s : Schema} (h : Response.payload? d = some (contentType, s)) :
    (Property.ofSchema c "response" s).notes ⊆ (Response.ofDeclaration c code d).notes := by
  unfold Response.ofDeclaration
  simp only [Noted.notes_bind, h]
  exact fun n hn => List.mem_append_right _ (List.mem_append_left _ hn)

/-- What was noted for the payload that an operation returns was noted for the operation. -/
theorem notes_subset_of_returns {x : DeclaredOperation} {s : Schema} (h : x.Returns c s) :
    (Property.ofSchema c "response" s).notes ⊆ (answersOf c x.declared).notes := by
  obtain ⟨answer, hanswer, -, contentType, hpayload⟩ := h
  obtain ⟨⟨code, part⟩, -, hvalue, hsub⟩ := Noted.exists_of_mem_filterMapList hanswer
  refine fun n hn => hsub ?_
  unfold answerOf at hvalue ⊢
  simp only [Noted.value_bind, Noted.notes_bind] at hvalue ⊢
  split at hvalue
  · exact absurd hvalue (by simp)
  · next d hd =>
    simp only [Noted.value_bind, Noted.value_pure, Noted.notes_bind] at hvalue ⊢
    obtain rfl := Option.some.inj hvalue
    exact List.mem_append_right _ (List.mem_append_left _ (notes_payload_subset hpayload hn))

theorem notes_subset_ofDeclaration {models : ModelMap} {x : DeclaredOperation} {o : Operation}
    (h : x.built c models = .ok o) : (answersOf c x.declared).notes ⊆
      (ofDeclaration c models x.path x.method x.pathParameters x.declared).notes := by
  unfold DeclaredOperation.built at h
  unfold ofDeclaration at h ⊢
  simp only [Noted.value_bind, Noted.notes_bind] at h ⊢
  split at h
  · exact absurd h (by simp)
  · next name hname =>
    intro n hn
    exact List.mem_append_right _ (List.mem_append_left _ (notes_subset_named _ _ _ _ _ _ _ hn))

end Operation

namespace Buckets

variable {c : Context} {models : ModelMap}

/-- If no declaration fails, what was noted for the answers of each was noted for all. -/
theorem notes_subset_addDeclared {xs : List DeclaredOperation} {buckets after : Buckets}
    (h : (addDeclared c models xs buckets).value = .ok after) {x : DeclaredOperation} (hx : x ∈ xs) :
    (Operation.answersOf c x.declared).notes ⊆ (addDeclared c models xs buckets).notes := by
  induction xs generalizing buckets with
  | nil => simp at hx
  | cons y xs ih =>
    rw [addDeclared] at h ⊢
    simp only [Noted.value_bind, Noted.notes_bind] at h ⊢
    split at h
    · exact absurd h (by simp)
    · next o ho =>
      simp only [Noted.value_bind, Noted.notes_bind] at h ⊢
      intro n hn
      rcases List.mem_cons.mp hx with rfl | hx
      · exact List.mem_append_left _ (Operation.notes_subset_ofDeclaration ho hn)
      · exact List.mem_append_right _ (List.mem_append_right _ (ih h hx hn))

end Buckets

namespace Resolution

/-- If no reference is reported as unresolved, a payload that refers to no schema lies deeper than
properties are described. -/
theorem maxDepth_lt_nesting {c : Context} {r : Resolution} (hmade : MadeOf c r)
    (hclean : Diagnostic.hasKind .unresolvedReference r.diagnostics = false)
    {x : DeclaredOperation} (hx : x ∈ c.document.operations) {s : Schema}
    (h : x.ReturnsUndefined c s) : Property.maxDepth < s.nesting := by
  by_contra hshallow
  obtain ⟨hreturns, name, href, hs⟩ := h
  obtain ⟨notes, hdiagnostics, -, hsub⟩ := hmade.diagnostics
  rw [hdiagnostics] at hclean
  have hmem : ∃ target, .undefinedSchema name target ∈ (Property.ofSchema c "response" s).notes :=
    Property.undefinedSchema_mem_notes_ofSchemaAt href hs (by omega)
  obtain ⟨target, hmem⟩ := hmem
  have hnoted := hsub (Buckets.notes_subset_addDeclared hmade.operations hx
    (Operation.notes_subset_of_returns hreturns hmem))
  exact Note.allDefined_of_hasKind hclean name target hnoted

/-- Two modes differ in the options of the context only. -/
theorem context_eq_withOptions {o o' : Options} (ho : o.flat = o'.flat) (v : Conventions)
    (d : Document) : context o' v d = (context o v d).withOptions o' := by
  obtain ⟨-, -, -, hnames, -⟩ := Options.of_flat_eq ho
  have hdocument : (distinctNames o' d).value = (distinctNames o d).value := by
    rw [value_distinctNames, value_distinctNames, hnames]
  rw [context, context, Context.withOptions, hdocument]

/-- The security schemes of a resolution are those of its document. -/
theorem security_of_ofDocument {o : Options} {v : Conventions} {d : Document} {r : Resolution}
    (h : ofDocument o v d = .ok r) :
    (SecurityScheme.ofDocument (context o v d).document).value = .ok r.security := by
  unfold ofDocument at h
  dsimp only at h
  rw [value_parts] at h
  dsimp only at h
  split at h
  · exact absurd h (by simp)
  · split at h
    · exact absurd h (by simp [Except.map])
    · cases hsecurity : (SecurityScheme.ofDocument (context o v d).document).value with
      | error failure =>
        rw [hsecurity] at h
        exact absurd h (by simp [Except.map])
      | ok security =>
        rw [hsecurity] at h
        rw [← Except.ok.inj h]

/-- Two modes fail alike. -/
theorem ofDocument_eq_error_congr {o o' : Options} (v : Conventions) {d : Document}
    (hd : d.DistinctSchemas) (ho : o.flat = o'.flat) (failure : Failure) :
    ofDocument o v d = .error failure ↔ ofDocument o' v d = .error failure := by
  have hlibrary : o'.checkLibrary v.supportedLibraries = o.checkLibrary v.supportedLibraries := by
    obtain ⟨-, -, -, -, hlibrary⟩ := Options.of_flat_eq ho
    rw [Options.checkLibrary, hlibrary, Options.checkLibrary]
  have hagree := Buckets.agree_ofDocument (distinctSchemas_context o v hd) (o := o') ho
  have hsecurity : (SecurityScheme.ofDocument ((context o v d).withOptions o').document).value =
      (SecurityScheme.ofDocument (context o v d).document).value := rfl
  rw [ofDocument_eq_error_iff, ofDocument_eq_error_iff, context_eq_withOptions ho v d, hlibrary,
    hsecurity, hagree.error_iff, hagree.ok_iff]

/-- Two resolutions that differ in the composition mode only fail alike or give the same security
schemes. If no reference is reported as unresolved, they also give the same operations in the same
buckets, up to whether an operation refers to a model when it returns a payload that refers to no
schema and nests more containers than are described. -/
theorem ofDocument_sameButReference {o o' : Options} (v : Conventions) {d : Document}
    (hd : d.DistinctSchemas) (ho : o.flat = o'.flat) :
    (∀ failure, ofDocument o v d = .error failure ↔ ofDocument o' v d = .error failure) ∧
    ∀ r r', ofDocument o v d = .ok r → ofDocument o' v d = .ok r' →
      r'.security = r.security ∧
      (Diagnostic.hasKind .unresolvedReference r.diagnostics = false →
        Buckets.SameButReference (fun place => ∃ x ∈ (context o v d).document.operations,
            x.place = place ∧ ∃ s, x.ReturnsUndefined (context o v d) s ∧
              Property.maxDepth < s.nesting)
          r.operations r'.operations) := by
  refine ⟨ofDocument_eq_error_congr v hd ho, fun r r' hr hr' => ?_⟩
  -- Both are runs over one context, in which only the options differ.
  have hcontext := context_eq_withOptions ho v d
  have hmade := of_ofDocument hr
  have hmade' := of_ofDocument hr'
  have hsecurity := security_of_ofDocument hr
  have hsecurity' := security_of_ofDocument hr'
  rw [hcontext] at hmade' hsecurity'
  refine ⟨Except.ok.inj (hsecurity'.symm.trans hsecurity), fun hclean => ?_⟩
  have hagree := Buckets.agree_ofDocument (distinctSchemas_context o v hd) (o := o') ho
  rw [← hmade.models, ← hmade'.models, hmade.operations, hmade'.operations] at hagree
  cases hagree with
  | ok hsame =>
    refine hsame.mono ?_
    rintro place ⟨x, hx, hplace, s, hreturns⟩
    exact ⟨x, hx, hplace, s, hreturns, maxDepth_lt_nesting hmade hclean hx hreturns⟩

/-- A schema in so many arrays. -/
def inArrays : Nat → Schema → Schema
  | 0, s => s
  | n + 1, s => .ofShape (.array (some (inArrays n s)))

/-- A document with one operation, which returns the payload. The union of `Heir` is a model of its
own only where properties are not inherited. -/
def heirPets (payload : Schema) : Document :=
  { paths := [("/pets", { get := some {
      operationId := some "list"
      responses := [("200", .inline {
        content := [("application/json", { schema := some payload })] })] } })]
    components := { schemas := [
      ("Cat", .emptyObject),
      ("Base", .ofShape (.object
        [("pet", .ofShape (.composed [] [.reference "#/components/schemas/Cat"] [] [] []))] [])),
      ("Heir", .ofShape (.composed [.reference "#/components/schemas/Base"] [] [] [] []))] } }

theorem ofDocument_heirPets :
    let o : Options := { supportsInheritance := true }
    let d := heirPets (.reference "#/components/schemas/Cat")
    let c := context {} (.neutral false) d
    ∃ r r', ofDocument {} (.neutral false) d = .ok r ∧ ofDocument o (.neutral false) d = .ok r' ∧
      Entries.keys r.models ≠ Entries.keys r'.models ∧
      Buckets.SameButReference (fun place => ∃ x ∈ c.document.operations, x.place = place ∧
        ∃ s, x.ReturnsUndefined c s ∧ Property.maxDepth < s.nesting) r.operations r'.operations := by
  intro o d c
  have hflat : (ofDocument {} (.neutral false) d).toOption.map
      (fun r => (Entries.keys r.models, Diagnostic.hasKind .unresolvedReference r.diagnostics)) =
        some (["Cat", "Base", "Heir", "OneOfBasePet", "OneOfHeirPet"], false) := by decide +kernel
  have hheirs : (ofDocument o (.neutral false) d).toOption.map (fun r => Entries.keys r.models) =
      some ["Cat", "Base", "Heir", "OneOfBasePet"] := by decide +kernel
  obtain ⟨r, hr, hseen⟩ := Option.map_eq_some_iff.mp hflat
  obtain ⟨r', hr', hkeys'⟩ := Option.map_eq_some_iff.mp hheirs
  obtain ⟨hkeys, hclean⟩ := Prod.mk.inj hseen
  have hdistinct : d.DistinctSchemas := by decide
  have hmode : ({} : Options).flat = o.flat := rfl
  obtain ⟨-, hsame⟩ := ofDocument_sameButReference (.neutral false) hdistinct hmode
  refine ⟨r, r', ofDocument_eq_ok hr, ofDocument_eq_ok hr', ?_,
    (hsame r r' (ofDocument_eq_ok hr) (ofDocument_eq_ok hr')).2 hclean⟩
  rw [hkeys, hkeys']
  decide

/-- Below too many arrays no reference is noted, and the operation refers to a model in one of the
two modes only. -/
theorem operations_ne_heirPets :
    let o : Options := { supportsInheritance := true }
    let d := heirPets (inArrays 65 (.reference "#/components/schemas/OneOfHeirPet"))
    ∃ r r', ofDocument {} (.neutral false) d = .ok r ∧ ofDocument o (.neutral false) d = .ok r' ∧
      Diagnostic.hasKind .unresolvedReference r.diagnostics = false ∧
      Diagnostic.hasKind .unresolvedReference r'.diagnostics = false ∧
      r.operations ≠ r'.operations := by
  intro o d
  have hflat : (ofDocument {} (.neutral false) d).toOption.map
      (fun r => (r.operations.map fun e => e.2.map (·.hasReference),
        Diagnostic.hasKind .unresolvedReference r.diagnostics)) =
      some ([[true]], false) := by decide +kernel
  have hheirs : (ofDocument o (.neutral false) d).toOption.map
      (fun r => (r.operations.map fun e => e.2.map (·.hasReference),
        Diagnostic.hasKind .unresolvedReference r.diagnostics)) =
      some ([[false]], false) := by decide +kernel
  obtain ⟨r, hr, hseen⟩ := Option.map_eq_some_iff.mp hflat
  obtain ⟨r', hr', hseen'⟩ := Option.map_eq_some_iff.mp hheirs
  obtain ⟨hoperations, hclean⟩ := Prod.mk.inj hseen
  obtain ⟨hoperations', hclean'⟩ := Prod.mk.inj hseen'
  refine ⟨r, r', ofDocument_eq_ok hr, ofDocument_eq_ok hr', hclean, hclean', fun heq => ?_⟩
  rw [← heq, hoperations] at hoperations'
  exact absurd hoperations' (by decide)

end Resolution
end ApiResolution
