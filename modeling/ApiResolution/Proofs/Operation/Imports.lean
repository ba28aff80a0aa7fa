import ApiResolution.Proofs.Model.Hierarchy
import ApiResolution.Proofs.Operation.Returns
import ApiResolution.Proofs.Parameter.Uses

/-!
The models that an operation imports. Each parameter and each payload comes with the models to which
it refers at any level; headers come with none. So the imports of an operation are exactly the models
that its parameters and payloads use (`mem_imports_named_iff`), and a model to which a header refers
is among them only if a parameter or a payload uses it too (`imports_ofDocument`).
-/

namespace ApiResolution

/-! ## Request bodies -/

/-- A request body comes with exactly the models that its parameters use; each is used in one of its
contents. -/
structure Request.Exact (c : Context) (r : Request) : Prop where
  complete : r.All fun p => ∀ model, p.Uses c model → model ∈ r.imports
  used : ∀ model ∈ r.imports, ∃ b ∈ r.bodies, ∃ p ∈ b.content.parameters, p.Uses c model

namespace Request

variable {c : Context} {unicode : Bool} {body : RequestBodyObject} {r : Request}

theorem All.imp {P Q : Parameter → Prop} (h : r.All P) (himp : ∀ p, P p → Q p) : r.All Q where
  bodies b hb p hp := himp p (h.bodies b hb p hp)
  bodyParam p hp := himp p (h.bodyParam p hp)
  formParams p hp := himp p (h.formParams p hp)

/-- Whatever is imported beside, the models that the parameters use stay imported. -/
theorem Exact.complete_of_subset (h : r.Exact c) {imports : List String}
    (hsub : r.imports ⊆ imports) : r.All fun p => ∀ model, p.Uses c model → model ∈ imports :=
  h.complete.imp fun _ hp model hm => hsub (hp model hm)

/-- Every model that comes with a content at the end, or came before, is used in one of the
contents. -/
theorem Exact.used_append (h : r.Exact c) {us : List (Using Parameter)}
    (hus : ∀ u ∈ us, u.Exact c) {b : BodyContent}
    (hb : b.content.parameters = us.map (·.value)) :
    ∀ model ∈ insertTexts (us.flatMap (·.imports)) r.imports,
      ∃ b' ∈ r.bodies ++ [b], ∃ p ∈ b'.content.parameters, p.Uses c model := by
  intro model hm
  rcases mem_insertTexts.mp hm with hm | hm
  · obtain ⟨u, hu, hm⟩ := List.mem_flatMap.mp hm
    have hp : u.value ∈ b.content.parameters := hb ▸ List.mem_map_of_mem hu
    exact ⟨b, List.mem_append_right _ (List.mem_singleton_self b), u.value, hp,
      (hus u hu model).mp hm⟩
  · obtain ⟨b', hb', hm⟩ := h.used model hm
    exact ⟨b', List.mem_append_left _ hb', hm⟩

theorem Exact.addForm (h : r.Exact c) (contentType : String) {us : List (Using Parameter)}
    (hus : ∀ u ∈ us, u.Exact c) : (r.addForm contentType us).Exact c := by
  by_cases hempty : (us.map (·.value)).isEmpty = true
  · have hadd : r.addForm contentType us = r := if_pos hempty
    rw [hadd]
    exact h
  · have himports : (r.addForm contentType us).imports =
        insertTexts (us.flatMap (·.imports)) r.imports :=
      congrArg Request.imports (if_neg hempty)
    have hbodies : (r.addForm contentType us).bodies = r.bodies ++ [⟨{
        contentTypes := [contentType], isForm := true, parameters := us.map (·.value) }, none⟩] :=
      congrArg Request.bodies (if_neg hempty)
    constructor
    · rw [himports]
      refine (h.complete_of_subset fun _ hm => mem_insertTexts.mpr (.inr hm)).addForm contentType ?_
      intro u hu model hm
      exact mem_insertTexts.mpr (.inl (List.mem_flatMap.mpr ⟨u, hu, (hus u hu model).mpr hm⟩))
    · rw [himports, hbodies]
      exact h.used_append hus rfl

theorem Exact.addBody (h : r.Exact c) (contentType : String) (schema : Option Schema)
    {u : Using Parameter} (hu : u.Exact c) : (r.addBody contentType schema u).Exact c := by
  have himports : (r.addBody contentType schema u).imports =
      insertTexts ([u].flatMap (·.imports)) r.imports := by
    rw [List.flatMap_singleton]
    rfl
  constructor
  · rw [himports]
    refine (h.complete_of_subset fun _ hm => mem_insertTexts.mpr (.inr hm)).addBody
      contentType schema ?_
    intro model hm
    rw [List.flatMap_singleton]
    exact mem_insertTexts.mpr (.inl ((hu model).mpr hm))
  · rw [himports]
    exact h.used_append (List.forall_mem_singleton.mpr hu) rfl

/-- A shared content keeps its parameters. -/
theorem map_parameters_share? {contentType : String} {schema : Option Schema}
    {bs after : List BodyContent} (hs : share? contentType schema bs = some after) :
    after.map (·.content.parameters) = bs.map (·.content.parameters) := by
  induction bs generalizing after with
  | nil => exact absurd hs (by simp [share?])
  | cons b bs ih =>
    rw [share?] at hs
    split at hs
    · obtain rfl := Option.some.inj hs
      rfl
    · obtain ⟨rest, hrest, rfl⟩ := Option.map_eq_some_iff.mp hs
      rw [List.map_cons, List.map_cons, ih hrest]

theorem Exact.share (h : r.Exact c) {contentType : String} {schema : Option Schema}
    {after : List BodyContent} (hs : share? contentType schema r.bodies = some after)
    (consumes : List String) : Exact c { r with bodies := after, consumes } where
  complete := ⟨All.share h.complete.bodies hs, h.complete.bodyParam, h.complete.formParams⟩
  used model hm := by
    obtain ⟨b, hb, p, hp, hm⟩ := h.used model hm
    have hmem : b.content.parameters ∈ after.map (·.content.parameters) := by
      rw [map_parameters_share? hs]
      exact List.mem_map_of_mem hb
    obtain ⟨b', hb', hsame⟩ := List.mem_map.mp hmem
    exact ⟨b', hb', p, hsame ▸ hp, hm⟩

/-- Every media type adds exactly the models that its parameters use. -/
theorem Exact.addMedia (hv : c.conventions = .neutral unicode) (h : r.Exact c)
    (contentType : String) (media : MediaTypeObject) :
    (r.addMedia c body contentType media).value.Exact c := by
  have hconsumes : Exact c { r with consumes := r.consumes ++ [contentType] } :=
    ⟨⟨h.complete.bodies, h.complete.bodyParam, h.complete.formParams⟩, h.used⟩
  unfold Request.addMedia
  dsimp only
  split
  · exact hconsumes.addForm contentType (Parameter.exact_ofForm hv)
  · split
    · next bodies hshare => exact h.share hshare _
    · exact hconsumes.addBody contentType _ (Parameter.exact_ofBody hv body contentType media)

theorem Exact.addAll (hv : c.conventions = .neutral unicode) (h : r.Exact c)
    (media : List (String × MediaTypeObject)) : (addAll c body media r).value.Exact c := by
  induction media generalizing r with
  | nil => exact h
  | cons e media ih =>
    rw [Request.addAll, Noted.value_bind]
    exact ih (h.addMedia hv e.1 e.2)

theorem exact_requestOf (hv : c.conventions = .neutral unicode) (d : OperationObject) :
    (Operation.requestOf c d).value.Exact c := by
  have hempty : Exact c {} := ⟨⟨by simp, by simp, by simp⟩, by simp⟩
  unfold Operation.requestOf
  split
  · exact hempty
  · simp only [Noted.value_bind]
    split
    · exact hempty.addAll hv _
    · exact hempty

end Request

/-! ## Responses -/

/-- A response comes with exactly the models to which its payload refers. -/
theorem Response.mem_imports_ofDeclaration_iff {c : Context} {code : String} {d : ResponseObject}
    {model : String} :
    model ∈ (ofDeclaration c code d).value.imports ↔
      ∃ q, (ofDeclaration c code d).value.value.schema = some q ∧
        q.RefersTo c.conventions model := by
  unfold ofDeclaration
  simp only [Noted.value_bind]
  split
  · refine iff_of_false List.not_mem_nil ?_
    rintro ⟨q, hq, -⟩
    exact absurd hq (by simp [declared])
  · next contentType s _ =>
    constructor
    · exact fun h => ⟨_, rfl, Property.mem_imports_iff.mp h⟩
    · rintro ⟨q, hq, hmodel⟩
      rw [← Option.some.inj hq] at hmodel
      exact Property.mem_imports_iff.mpr hmodel

theorem Response.map_schema_markHasMore (rs : List Response) :
    (markHasMore rs).map (·.schema) = rs.map (·.schema) := by
  have hschema := congrArg (List.map (·.schema)) (map_unmarked_markHasMore rs)
  rwa [List.map_map, List.map_map] at hschema

/-! ## Operations -/

namespace Operation

/-- An operation uses a model when one of its parameters does, or when the payload of one of its
responses refers to it. -/
inductive Uses (c : Context) (o : Operation) (model : String) : Prop
  | ofParameter {p : Parameter} (hp : o.HasParameter p) (h : p.Uses c model)
  | ofPayload {r : Response} {q : Property} (hr : r ∈ o.responses) (hq : r.schema = some q)
      (h : q.RefersTo c.conventions model)

/-- The headers of all responses of an operation, and of the one that it returns. -/
def allHeaders (o : Operation) : List Property :=
  o.responses.flatMap (·.headers) ++ o.responseHeaders

/-- An operation imports the models to which anything in it refers: what its parameters are built
from, the payloads of its responses, and its headers. -/
structure ImportsComplete (c : Context) (o : Operation) : Prop where
  parameters : ∀ p, o.HasParameter p → ∀ q, p.BuiltFrom c q →
    ∀ model, q.RefersTo c.conventions model → model ∈ o.imports
  payloads : ∀ r ∈ o.responses, ∀ q, r.schema = some q →
    ∀ model, q.RefersTo c.conventions model → model ∈ o.imports
  headers : ∀ q ∈ o.allHeaders, ∀ model, q.RefersTo c.conventions model → model ∈ o.imports

variable {c : Context} {models : ModelMap} {path : String} {method : HttpMethod}
  {ofPath : List (OrReference ParameterObject)} {d : OperationObject} {name : String}
  {unicode : Bool} {model : String}

theorem imports_named (c : Context) (models : ModelMap) (path : String) (method : HttpMethod)
    (ofPath : List (OrReference ParameterObject)) (d : OperationObject) (name : String) :
    (named c models path method ofPath d name).value.imports =
      insertTexts ((requestOf c d).value.imports ++
        (declaredParameters c ofPath d.parameters).value.flatMap (·.imports) ++
        (answersOf c d).value.flatMap (·.response.imports)) [] := by
  have hanswers : ∀ (answers : List Answer) (o : Operation),
      (withAnswers c models answers o).imports = o.imports := by
    intro answers o
    unfold withAnswers
    dsimp only
    split <;> rfl
  simp only [named, Noted.value_bind, Noted.value_pure, withParameters, hanswers]

theorem exact_declaredParameters (hv : c.conventions = .neutral unicode)
    (ofPath ofOperation : List (OrReference ParameterObject)) :
    ∀ u ∈ (declaredParameters c ofPath ofOperation).value, u.Exact c := by
  unfold declaredParameters
  simp only [Noted.value_bind, Noted.value_mapList]
  exact List.forall_mem_map.mpr fun e _ => Parameter.exact_ofDeclaration hv e

theorem mem_imports_iff_of_mem_answersOf {answer : Answer} (h : answer ∈ (answersOf c d).value) :
    model ∈ answer.response.imports ↔
      ∃ q, answer.response.value.schema = some q ∧ q.RefersTo c.conventions model := by
  obtain ⟨⟨code, part⟩, -, hv, -⟩ := Noted.exists_of_mem_filterMapList h
  unfold answerOf at hv
  simp only [Noted.value_bind] at hv
  split at hv
  · exact absurd hv (by simp)
  · simp only [Noted.value_bind, Noted.value_pure, Option.some.injEq] at hv
    obtain rfl := hv
    exact Response.mem_imports_ofDeclaration_iff

/-- What the answers of an operation come with is what the payloads of its responses refer to. -/
theorem exists_answer_iff_exists_payload :
    (∃ answer ∈ (answersOf c d).value, model ∈ answer.response.imports) ↔
      ∃ r ∈ (named c models path method ofPath d name).value.responses, ∃ q,
        r.schema = some q ∧ q.RefersTo c.conventions model := by
  have hschemas : (named c models path method ofPath d name).value.responses.map (·.schema) =
      (answersOf c d).value.map (·.response.value.schema) := by
    rw [responses_named, Response.map_schema_markHasMore, List.map_map]
    rfl
  constructor
  · rintro ⟨answer, ha, hmodel⟩
    obtain ⟨q, hq, hmodel⟩ := (mem_imports_iff_of_mem_answersOf ha).mp hmodel
    have hmem : some q ∈ (answersOf c d).value.map (·.response.value.schema) :=
      hq ▸ List.mem_map_of_mem ha
    rw [← hschemas] at hmem
    obtain ⟨r, hr, hschema⟩ := List.mem_map.mp hmem
    exact ⟨r, hr, q, hschema, hmodel⟩
  · rintro ⟨r, hr, q, hq, hmodel⟩
    have hmem : some q ∈ (named c models path method ofPath d name).value.responses.map
        (·.schema) := hq ▸ List.mem_map_of_mem hr
    rw [hschemas] at hmem
    obtain ⟨answer, ha, hschema⟩ := List.mem_map.mp hmem
    exact ⟨answer, ha, (mem_imports_iff_of_mem_answersOf ha).mpr ⟨q, hschema, hmodel⟩⟩

theorem Uses.setOperationId {o : Operation} (h : o.Uses c model) (operationId : String) :
    Uses c { o with operationId } model := by
  cases h with
  | ofPayload hr hq h => exact .ofPayload hr hq h
  | ofParameter hp h =>
    refine .ofParameter ?_ h
    cases hp with
    | listed hps hp => exact .listed hps hp
    | inContent hc hp => exact .inContent hc hp
    | ofBody hp => exact .ofBody hp

/-- A content of the request body is kept by the operation, with copies of its parameters. -/
theorem hasCopyIn_contentsOf {contents : List Content} {content : Content} {p : Parameter}
    (hcontent : content ∈ contents) (hp : p ∈ content.parameters) (unique : Bool)
    (o : Operation) : ∃ full ∈ contentsOf unique contents o, p.HasCopyIn full.parameters := by
  have hnonempty : ¬ contents.isEmpty = true := by
    rw [List.isEmpty_iff]
    exact List.ne_nil_of_mem hcontent
  unfold contentsOf
  dsimp only
  rw [if_neg hnonempty, List.map_map]
  refine ⟨_, List.mem_map_of_mem hcontent, ?_⟩
  rw [Function.comp_apply, hasCopyIn_finishContent, Parameter.hasCopyIn_append]
  exact .inl (Parameter.hasCopyIn_of_mem hp)

/-- The models that an operation imports are those that it uses. -/
theorem mem_imports_named_iff (hv : c.conventions = .neutral unicode) :
    model ∈ (named c models path method ofPath d name).value.imports ↔
      (named c models path method ofPath d name).value.Uses c model := by
  have himports : ∀ model, model ∈ (named c models path method ofPath d name).value.imports ↔
      (model ∈ (requestOf c d).value.imports ∨
        ∃ u ∈ (declaredParameters c ofPath d.parameters).value, model ∈ u.imports) ∨
      ∃ answer ∈ (answersOf c d).value, model ∈ answer.response.imports := by
    intro model
    rw [imports_named, mem_insertTexts]
    simp only [List.mem_append, List.mem_flatMap, List.not_mem_nil, or_false]
  have hrequest := Request.exact_requestOf hv d
  have hdeclared := exact_declaredParameters hv ofPath d.parameters
  obtain ⟨hlists, hcontents, -⟩ := withParameters_named c models path method ofPath d name
  constructor
  · intro hmodel
    -- A form or body parameter is found again in its content, a declared one among all parameters.
    rcases (himports model).mp hmodel with (hmodel | ⟨u, hu, hmodel⟩) | hmodel
    · obtain ⟨b, hb, p, hp, huses⟩ := hrequest.used model hmodel
      obtain ⟨content, hcontent, q, hq, hcopy⟩ :=
        hasCopyIn_contentsOf (List.mem_map_of_mem hb) hp c.options.ensureUniqueParams
          (named c models path method ofPath d name).value
      exact .ofParameter (.inContent (hcontents ▸ hcontent) hq)
        ((Parameter.uses_of_bare_eq hcopy).mpr huses)
    · obtain ⟨q, hq, hcopy⟩ := hasCopyIn_allParams (List.mem_map_of_mem hu) hlists
      exact .ofParameter (.listed List.mem_cons_self hq)
        ((Parameter.uses_of_bare_eq hcopy).mpr ((hdeclared u hu model).mp hmodel))
    · obtain ⟨r, hr, q, hq, hmodel⟩ := exists_answer_iff_exists_payload.mp hmodel
      exact .ofPayload hr hq hmodel
  · rintro (⟨hp, huses⟩ | ⟨hr, hq, hmodel⟩)
    · refine forall_hasParameter_named
        (Parameter.stable_uses c (· ∈ (named c models path method ofPath d name).value.imports))
        ?_ ?_ _ hp model huses
      · exact hrequest.complete_of_subset fun model hm => (himports model).mpr (.inl (.inl hm))
      · exact fun u hu model hm =>
          (himports model).mpr (.inl (.inr ⟨u, hu, (hdeclared u hu model).mpr hm⟩))
    · exact (himports model).mpr
        (.inr (exists_answer_iff_exists_payload.mpr ⟨_, hr, _, hq, hmodel⟩))

end Operation

namespace Resolution

/-- By the neutral conventions every operation imports exactly the models that its parameters and
payloads use. So its imports are complete if and only if each model to which a header refers is used
by a parameter or a payload as well. -/
theorem imports_ofDocument {o : Options} {d : Document} {r : Resolution} {unicode : Bool}
    (h : ofDocument o (.neutral unicode) d = .ok r) :
    ∀ e ∈ r.operations, ∀ x ∈ e.2,
      (∀ model, model ∈ x.imports ↔ x.Uses (context o (.neutral unicode) d) model) ∧
      (x.ImportsComplete (context o (.neutral unicode) d) ↔
        ∀ q ∈ x.allHeaders, ∀ model, q.RefersTo (.neutral unicode) model →
          x.Uses (context o (.neutral unicode) d) model) := by
  have hexact : ∀ e ∈ r.operations, ∀ x ∈ e.2,
      ∀ model, model ∈ x.imports ↔ x.Uses (context o (.neutral unicode) d) model := by
    refine forall_operations h ?_ ?_
    · intro x operationId hx model
      exact (hx model).trans ⟨fun h => h.setOperationId operationId,
        fun h => h.setOperationId x.operationId⟩
    · intro path method ofPath declared name model
      exact Operation.mem_imports_named_iff rfl
  intro e he x hx
  have hx := hexact e he x hx
  refine ⟨hx, ?_⟩
  constructor
  · intro hcomplete q hq model hmodel
    exact (hx model).mp (hcomplete.headers q hq model hmodel)
  · intro hheaders
    constructor
    · exact fun p hp q hq model hmodel => (hx model).mpr (.ofParameter hp ⟨q, hq, hmodel⟩)
    · exact fun a ha q hq model hmodel => (hx model).mpr (.ofPayload ha hq hmodel)
    · exact fun q hq model hmodel => (hx model).mpr (hheaders q hq model hmodel)

/-- The reference to a pet. -/
def petReference : Schema := .reference "#/components/schemas/Pet"

/-- A document whose operation sends a pet in a header, with some content. -/
def headedPets (content : Entries MediaTypeObject) : Document :=
  let pet : HeaderObject := { schema := some petReference }
  let list : OperationObject :=
    { operationId := some "list"
      responses := [("200", .inline { headers := [("X-Pet", .inline pet)], content })] }
  { paths := [("/pets", { get := some list })]
    components := { schemas := [("Pet", .emptyObject)] } }

/-- What the first operation imports, and the models to which its headers refer. -/
def importedAndHeaded (d : Document) : Option (List String × List String) :=
  (ofDocument {} (.neutral false) d).toOption.bind fun r => r.operations.head?.bind fun e =>
    e.2.head?.map fun x => (x.imports, x.allHeaders.flatMap (·.imports (.neutral false)))

theorem exists_of_importedAndHeaded {d : Document} {imported headed : List String}
    (h : importedAndHeaded d = some (imported, headed)) :
    ∃ r e x, ofDocument {} (.neutral false) d = .ok r ∧ e ∈ r.operations ∧ x ∈ e.2 ∧
      x.imports = imported ∧
      ∀ model, (∃ q ∈ x.allHeaders, q.RefersTo (.neutral false) model) ↔ model ∈ headed := by
  obtain ⟨r, hr, h⟩ := Option.bind_eq_some_iff.mp h
  obtain ⟨e, he, h⟩ := Option.bind_eq_some_iff.mp h
  obtain ⟨x, hx, h⟩ := Option.map_eq_some_iff.mp h
  obtain ⟨himported, rfl⟩ := Prod.mk.inj h
  refine ⟨r, e, x, ofDocument_eq_ok hr, List.mem_of_mem_head? he, List.mem_of_mem_head? hx,
    himported, fun model => ?_⟩
  rw [List.mem_flatMap]
  exact exists_congr fun q => and_congr_right fun _ => Property.mem_imports_iff.symm

/-- Where the pet is the content too, the imports are complete. -/
theorem importsComplete_headedPets :
    ∃ d r e x, d = headedPets [("application/json", { schema := some petReference })] ∧
      ofDocument {} (.neutral false) d = .ok r ∧ e ∈ r.operations ∧ x ∈ e.2 ∧
      x.imports = ["Pet"] ∧ x.ImportsComplete (context {} (.neutral false) d) := by
  have hpets : importedAndHeaded
      (headedPets [("application/json", { schema := some petReference })]) =
        some (["Pet"], ["Pet", "Pet"]) := by decide +kernel
  obtain ⟨r, e, x, hr, he, hx, himported, hheaded⟩ := exists_of_importedAndHeaded hpets
  obtain ⟨huses, hcomplete⟩ := imports_ofDocument hr e he x hx
  refine ⟨_, r, e, x, rfl, hr, he, hx, himported, hcomplete.mpr ?_⟩
  intro q hq model hmodel
  have hmem := (hheaded model).mp ⟨q, hq, hmodel⟩
  rw [← huses model, himported]
  simpa using hmem

/-- Without a content, nothing is imported, though the header refers to the pet. -/
theorem not_importsComplete_headedPets :
    ∃ r e x, ofDocument {} (.neutral false) (headedPets []) = .ok r ∧ e ∈ r.operations ∧
      x ∈ e.2 ∧ x.imports = [] ∧
      (∃ q ∈ x.allHeaders, q.RefersTo (.neutral false) "Pet") ∧
      ¬ x.ImportsComplete (context {} (.neutral false) (headedPets [])) := by
  have hpets : importedAndHeaded (headedPets []) = some ([], ["Pet", "Pet"]) := by decide +kernel
  obtain ⟨r, e, x, hr, he, hx, himported, hheaded⟩ := exists_of_importedAndHeaded hpets
  have hpet := (hheaded "Pet").mpr List.mem_cons_self
  refine ⟨r, e, x, hr, he, hx, himported, hpet, fun hcomplete => ?_⟩
  obtain ⟨q, hq, hmodel⟩ := hpet
  have himport := hcomplete.headers q hq "Pet" hmodel
  rw [himported] at himport
  exact List.not_mem_nil himport

end Resolution
end ApiResolution
