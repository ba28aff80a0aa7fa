import ApiResolution.Proofs.Marks
import ApiResolution.Proofs.Operation.Payloads
import ApiResolution.Proofs.Resolution.Buckets

/-!
What holds of the parts of every operation. Parameters come from declarations and from request
bodies; later steps change their marks, names and whether they are multipart, so what holds of them
apart from that holds of every parameter of an operation (`forall_parameters_named`). Likewise
responses change after their declaration only in their marks and in which one is the default
(`forall_responses_named`). The operations of a resolution are such operations up to their names
(`Resolution.forall_operations`).
-/

namespace ApiResolution

/-! ## Parameters -/

namespace Operation

/-- The lists of parameters of an operation. -/
def parameterLists (o : Operation) : List (List Parameter) :=
  [o.allParams, o.bodyParams, o.pathParams, o.queryParams, o.headerParams, o.cookieParams,
    o.formParams, o.requiredParams]

/-- A parameter of an operation: in one of its lists, in one of its contents, or that of its
body. -/
inductive HasParameter (o : Operation) (p : Parameter) : Prop
  | listed {ps : List Parameter} (hps : ps ∈ o.parameterLists) (hp : p ∈ ps)
  | inContent {content : Content} (hc : content ∈ o.contents) (hp : p ∈ content.parameters)
  | ofBody (hp : o.bodyParam = some p)

end Operation

/-- What is said of parameters whatever their marks, names and whether they are multipart. -/
structure Parameter.Stable (P : Parameter → Prop) : Prop where
  hasMore : ∀ p hasMore, P p → P { p with hasMore }
  paramName : ∀ p paramName, P p → P { p with paramName }
  isMultipart : ∀ p isMultipart, P p → P { p with isMultipart }

namespace Parameter

variable {P : Parameter → Prop} {ps : List Parameter}

theorem Stable.markHasMore (hP : Stable P) (h : ∀ p ∈ ps, P p) : ∀ p ∈ markHasMore ps, P p := by
  rw [markHasMore_eq]
  exact forall_mem_setMarks (fun more p => hP.hasMore p more) h

theorem Stable.requiredFirst (h : ∀ p ∈ ps, P p) : ∀ p ∈ requiredFirst ps, P p := by
  intro p hp
  rcases List.mem_append.mp hp with hp | hp
  · exact h p (List.mem_of_mem_filter hp)
  · exact h p (List.mem_of_mem_filter hp)

theorem Stable.renameFrom (hP : Stable P) (taken : List String) (h : ∀ p ∈ ps, P p) :
    ∀ p ∈ renameFrom taken ps, P p := by
  induction ps generalizing taken with
  | nil => exact h
  | cons first ps ih =>
    rw [List.forall_mem_cons] at h
    rw [Parameter.renameFrom]
    exact List.forall_mem_cons.mpr ⟨hP.paramName _ _ h.1, ih _ h.2⟩

end Parameter

/-- What is said of parameters holds of all that a request body contributes. -/
structure Request.All (P : Parameter → Prop) (r : Request) : Prop where
  bodies : ∀ b ∈ r.bodies, ∀ p ∈ b.content.parameters, P p
  bodyParam : ∀ p ∈ r.bodyParam, P p
  formParams : ∀ p ∈ r.formParams, P p

namespace Request

variable {c : Context} {body : RequestBodyObject} {P : Parameter → Prop} {r : Request}

theorem All.share {contentType : String} {schema : Option Schema} {bs after : List BodyContent}
    (h : ∀ b ∈ bs, ∀ p ∈ b.content.parameters, P p)
    (hs : share? contentType schema bs = some after) :
    ∀ b ∈ after, ∀ p ∈ b.content.parameters, P p := by
  induction bs generalizing after with
  | nil => exact absurd hs (by simp [share?])
  | cons b bs ih =>
    rw [List.forall_mem_cons] at h
    rw [share?] at hs
    split at hs
    · obtain rfl := Option.some.inj hs
      exact List.forall_mem_cons.mpr h
    · obtain ⟨rest, hrest, rfl⟩ := Option.map_eq_some_iff.mp hs
      exact List.forall_mem_cons.mpr ⟨h.1, ih h.2 hrest⟩

theorem All.addForm (h : All P r) (contentType : String) {ps : List (Using Parameter)}
    (hps : ∀ u ∈ ps, P u.value) : All P (r.addForm contentType ps) := by
  have hvalues : ∀ p ∈ ps.map (·.value), P p := List.forall_mem_map.mpr hps
  unfold Request.addForm
  dsimp only
  split
  · exact h
  · refine ⟨?_, h.bodyParam, ?_⟩
    · exact List.forall_mem_append.mpr ⟨h.bodies, List.forall_mem_singleton.mpr hvalues⟩
    · exact List.forall_mem_append.mpr ⟨h.formParams, hvalues⟩

theorem All.addBody (h : All P r) (contentType : String) (schema : Option Schema)
    {p : Using Parameter} (hp : P p.value) : All P (r.addBody contentType schema p) where
  bodies := List.forall_mem_append.mpr
    ⟨h.bodies, List.forall_mem_singleton.mpr (List.forall_mem_singleton.mpr hp)⟩
  bodyParam q hq := by
    rcases Option.or_eq_some_iff.mp hq with hq | ⟨-, hq⟩
    · exact h.bodyParam q hq
    · rwa [← Option.some.inj hq]
  formParams := h.formParams

/-- A media type adds only parameters of declarations and of bodies. -/
theorem All.addMedia (hP : Parameter.Stable P)
    (hdeclared : ∀ d, P (Parameter.ofDeclaration c d).value.value)
    (hbody : ∀ contentType media, P (Parameter.ofBody c body contentType media).value.value)
    (h : All P r) (contentType : String) (media : MediaTypeObject) :
    All P (r.addMedia c body contentType media).value := by
  have hconsumes : All P { r with consumes := r.consumes ++ [contentType] } :=
    ⟨h.bodies, h.bodyParam, h.formParams⟩
  unfold Request.addMedia
  dsimp only
  split
  · refine hconsumes.addForm contentType fun u hu => ?_
    unfold Parameter.ofForm at hu
    split at hu
    · exact absurd hu (by simp)
    · simp only [Noted.value_bind, Noted.value_pure, Noted.value_mapList, List.map_map] at hu
      obtain ⟨e, -, rfl⟩ := List.mem_map.mp hu
      exact hP.isMultipart _ _ (hdeclared _)
  · split
    · next bodies hshare => exact ⟨All.share h.bodies hshare, h.bodyParam, h.formParams⟩
    · exact hconsumes.addBody contentType _ (hbody contentType media)

theorem All.addAll (hP : Parameter.Stable P)
    (hdeclared : ∀ d, P (Parameter.ofDeclaration c d).value.value)
    (hbody : ∀ contentType media, P (Parameter.ofBody c body contentType media).value.value)
    (h : All P r) (media : List (String × MediaTypeObject)) :
    All P (addAll c body media r).value := by
  induction media generalizing r with
  | nil => exact h
  | cons e media ih =>
    rw [Request.addAll, Noted.value_bind]
    exact ih (h.addMedia hP hdeclared hbody e.1 e.2)

end Request

namespace Operation

variable {c : Context} {models : ModelMap} {path : String} {method : HttpMethod}
  {ofPath : List (OrReference ParameterObject)} {d : OperationObject} {name : String}

theorem all_requestOf {P : Parameter → Prop} (hP : Parameter.Stable P)
    (hdeclared : ∀ d, P (Parameter.ofDeclaration c d).value.value)
    (hbody : ∀ body contentType media,
      P (Parameter.ofBody c body contentType media).value.value) :
    Request.All P (requestOf c d).value := by
  have hempty : Request.All P {} := ⟨by simp, by simp, by simp⟩
  unfold requestOf
  split
  · exact hempty
  · simp only [Noted.value_bind]
    split
    · exact hempty.addAll hP hdeclared (hbody _) _
    · exact hempty

theorem forall_atLocation {P : Parameter → Prop} {ps : List Parameter} (h : ∀ p ∈ ps, P p)
    (location : ParameterLocation) : ∀ p ∈ atLocation location ps, P p :=
  fun p hp => h p (List.mem_of_mem_filter hp)

/-- The lists of parameters hold those of the request body and the declared ones. -/
theorem forall_parameterLists_withParameters {P : Parameter → Prop} (hP : Parameter.Stable P)
    (sorted : Bool) {request : Request} (hrequest : request.All P) {ps : List Parameter}
    (hps : ∀ p ∈ ps, P p) (o : Operation) :
    ∀ list ∈ (withParameters sorted request ps o).parameterLists, ∀ p ∈ list, P p := by
  have hbody : ∀ p ∈ request.bodyParam.toList, P p :=
    fun p hp => hrequest.bodyParam p (Option.mem_toList.mp hp)
  have hall : ∀ p ∈ request.formParams ++ request.bodyParam.toList ++ ps, P p :=
    List.forall_mem_append.mpr ⟨List.forall_mem_append.mpr ⟨hrequest.formParams, hbody⟩, hps⟩
  have hsorted : ∀ p ∈ (if sorted then
      Parameter.requiredFirst (request.formParams ++ request.bodyParam.toList ++ ps)
      else request.formParams ++ request.bodyParam.toList ++ ps), P p := by
    split
    · exact Parameter.Stable.requiredFirst hall
    · exact hall
  intro list hlist
  simp only [parameterLists, withParameters, List.mem_cons, List.not_mem_nil, or_false] at hlist
  rcases hlist with rfl | rfl | rfl | rfl | rfl | rfl | rfl | rfl
  · exact hP.markHasMore hsorted
  · exact hP.markHasMore (List.forall_mem_append.mpr ⟨hbody, forall_atLocation hps .body⟩)
  · exact hP.markHasMore (forall_atLocation hps .path)
  · exact hP.markHasMore (forall_atLocation hps .query)
  · exact hP.markHasMore (forall_atLocation hps .header)
  · exact hP.markHasMore (forall_atLocation hps .cookie)
  · exact hP.markHasMore
      (List.forall_mem_append.mpr ⟨hrequest.formParams, forall_atLocation hps .form⟩)
  · exact hP.markHasMore fun p hp => hall p (List.mem_of_mem_filter hp)

theorem forall_contentsOf {P : Parameter → Prop} (hP : Parameter.Stable P) (unique : Bool)
    {request : Request} (hrequest : request.All P) {o : Operation}
    (ho : ∀ list ∈ o.parameterLists, ∀ p ∈ list, P p) :
    ∀ content ∈ contentsOf unique request.contents o, ∀ p ∈ content.parameters, P p := by
  have hfinish : ∀ content : Content, (∀ p ∈ content.parameters, P p) →
      ∀ p ∈ (finishContent unique content).parameters, P p := by
    intro content hcontent
    refine hP.markHasMore (Parameter.Stable.requiredFirst ?_)
    split
    · exact hP.renameFrom [] hcontent
    · exact hcontent
  have hbeside : ∀ p ∈ o.headerParams ++ o.queryParams ++ o.pathParams ++ o.cookieParams, P p := by
    simp only [List.forall_mem_append]
    exact ⟨⟨⟨ho _ (by simp [parameterLists]), ho _ (by simp [parameterLists])⟩,
      ho _ (by simp [parameterLists])⟩, ho _ (by simp [parameterLists])⟩
  unfold contentsOf
  dsimp only
  refine List.forall_mem_map.mpr fun content hcontent => hfinish content ?_
  split at hcontent
  · rw [List.mem_singleton.mp hcontent]
    exact ho _ (by simp [parameterLists])
  · obtain ⟨content, hmem, rfl⟩ := List.mem_map.mp hcontent
    obtain ⟨b, hb, rfl⟩ := List.mem_map.mp hmem
    exact List.forall_mem_append.mpr ⟨hrequest.bodies b hb, hbeside⟩

/-- The parameters of an operation are those that its request body and its declarations give it. -/
theorem withParameters_named (c : Context) (models : ModelMap) (path : String)
    (method : HttpMethod) (ofPath : List (OrReference ParameterObject)) (d : OperationObject)
    (name : String) :
    let made := (named c models path method ofPath d name).value
    let request := (requestOf c d).value
    made.parameterLists = (withParameters c.options.sortParamsByRequired request
        ((declaredParameters c ofPath d.parameters).value.map (·.value)) made).parameterLists ∧
      made.contents = contentsOf c.options.ensureUniqueParams request.contents made ∧
      made.bodyParam = request.bodyParam :=
  ⟨rfl, rfl, rfl⟩

/-- What holds of the parameters of its request body and of its declarations holds of every parameter
of an operation. -/
theorem forall_hasParameter_named {P : Parameter → Prop} (hP : Parameter.Stable P)
    (hrequest : Request.All P (requestOf c d).value)
    (hps : ∀ u ∈ (declaredParameters c ofPath d.parameters).value, P u.value) :
    ∀ p, (named c models path method ofPath d name).value.HasParameter p → P p := by
  obtain ⟨hlists, hcontents, hbodyParam⟩ :=
    withParameters_named c models path method ofPath d name
  have hmade := forall_parameterLists_withParameters hP c.options.sortParamsByRequired hrequest
    (List.forall_mem_map.mpr hps) (named c models path method ofPath d name).value
  rw [← hlists] at hmade
  intro p hp
  cases hp with
  | listed hlist hp => exact hmade _ hlist p hp
  | inContent hcontent hp =>
    rw [hcontents] at hcontent
    exact forall_contentsOf hP c.options.ensureUniqueParams hrequest hmade _ hcontent p hp
  | ofBody hp => exact hrequest.bodyParam p (hbodyParam ▸ hp)

/-- What holds of the parameters of all declarations and of all bodies holds of every parameter of an
operation. -/
theorem forall_parameters_named {P : Parameter → Prop} (hP : Parameter.Stable P)
    (hdeclared : ∀ d, P (Parameter.ofDeclaration c d).value.value)
    (hbody : ∀ body contentType media,
      P (Parameter.ofBody c body contentType media).value.value) :
    ∀ p, (named c models path method ofPath d name).value.HasParameter p → P p := by
  refine forall_hasParameter_named hP (all_requestOf hP hdeclared hbody) ?_
  unfold declaredParameters
  simp only [Noted.value_bind, Noted.value_mapList]
  exact List.forall_mem_map.mpr fun e _ => hdeclared e

end Operation

/-! ## Responses -/

/-- What is said of responses whatever their marks and whether they are the default. -/
structure Response.Stable (P : Response → Prop) : Prop where
  hasMore : ∀ r hasMore, P r → P { r with hasMore }
  isDefault : ∀ r isDefault, P r → P { r with isDefault }

namespace Response

variable {c : Context}

/-- A header has the property of its schema but for its description and whether it is required. -/
theorem exists_ofSchema_of_mem_ofHeaders {headers : Entries (OrReference HeaderObject)}
    {p : Property} (h : p ∈ (ofHeaders c headers).value) :
    ∃ name s description required,
      p = { (Property.ofSchema c name s).value with description, required } := by
  obtain ⟨⟨name, part⟩, -, hv, -⟩ := Noted.exists_of_mem_filterMapList h
  simp only [Noted.value_bind] at hv
  split at hv
  · next d _ =>
    simp only [Noted.value_bind, Noted.value_pure, Option.some.injEq] at hv
    rw [← hv]
    unfold ofHeader
    cases d.schema with
    | none => exact ⟨name, .emptyObject, _, _, rfl⟩
    | some s => exact ⟨name, s, _, _, rfl⟩
  · exact absurd hv (by simp)

theorem headers_ofDeclaration (c : Context) (code : String) (d : ResponseObject) :
    (ofDeclaration c code d).value.value.headers = (ofHeaders c d.headers).value := by
  unfold ofDeclaration
  simp only [Noted.value_bind]
  split <;> rfl

/-- A payload is the property of its schema, with named members if it is an enum. -/
theorem exists_ofSchema_of_schema_ofDeclaration {code : String} {d : ResponseObject} {p : Property}
    (h : (ofDeclaration c code d).value.value.schema = some p) :
    ∃ s, p = Property.nameIfEnum c.conventions (Property.ofSchema c "response" s).value := by
  unfold ofDeclaration at h
  simp only [Noted.value_bind] at h
  split at h
  · exact absurd h (by simp [declared])
  · next contentType s _ => exact ⟨s, (Option.some.inj h).symm⟩

end Response

namespace Operation

variable {c : Context} {models : ModelMap} {path : String} {method : HttpMethod}
  {ofPath : List (OrReference ParameterObject)} {d : OperationObject} {name : String}
  {P : Response → Prop}

theorem forall_answersOf (hP : Response.Stable P)
    (hdeclared : ∀ code d, P (Response.ofDeclaration c code d).value.value) :
    ∀ answer ∈ (answersOf c d).value, P answer.response.value := by
  intro answer ha
  obtain ⟨⟨code, part⟩, -, hv, -⟩ := Noted.exists_of_mem_filterMapList ha
  unfold answerOf at hv
  simp only [Noted.value_bind] at hv
  split at hv
  · exact absurd hv (by simp)
  · simp only [Noted.value_bind, Noted.value_pure, Option.some.injEq] at hv
    obtain rfl := hv
    exact hP.isDefault _ _ (hdeclared _ _)

/-- What holds of declared responses holds of every response of an operation. -/
theorem forall_responses_named (hP : Response.Stable P)
    (hdeclared : ∀ code d, P (Response.ofDeclaration c code d).value.value) :
    ∀ r ∈ (named c models path method ofPath d name).value.responses, P r := by
  rw [responses_named, Response.markHasMore_eq]
  refine forall_mem_setMarks (fun more r => hP.hasMore r more) ?_
  exact List.forall_mem_map.mpr (forall_answersOf hP hdeclared)

/-- The headers that an operation returns are those of one of its responses. -/
theorem forall_responseHeaders_named {Q : Property → Prop}
    (hdeclared : ∀ headers, ∀ p ∈ (Response.ofHeaders c headers).value, Q p) :
    ∀ p ∈ (named c models path method ofPath d name).value.responseHeaders, Q p := by
  have hanswers : ∀ answer ∈ (answersOf c d).value, ∀ p ∈ answer.response.value.headers, Q p := by
    refine forall_answersOf (P := fun r => ∀ p ∈ r.headers, Q p)
      ⟨fun _ _ h => h, fun _ _ h => h⟩ fun code d => ?_
    rw [Response.headers_ofDeclaration]
    exact hdeclared d.headers
  have hreturned : ∀ o : Operation, (withAnswers c models (answersOf c d).value o).responseHeaders =
      (((answersOf c d).value.find? fun a => a.response.value.isDefault).map
        (·.response.value.headers)).getD [] := by
    intro o
    unfold withAnswers
    dsimp only
    split <;> rfl
  intro p hp
  have hmade : (named c models path method ofPath d name).value.responseHeaders =
      (withAnswers c models (answersOf c d).value _).responseHeaders := rfl
  rw [hmade, hreturned] at hp
  cases hfound : (answersOf c d).value.find? fun a => a.response.value.isDefault with
  | none => simp [hfound] at hp
  | some answer =>
    rw [hfound, Option.map_some, Option.getD_some] at hp
    exact hanswers answer (List.mem_of_find?_eq_some hfound) p hp

end Operation

/-! ## Operations -/

namespace Resolution

/-- What holds of an operation however it is named, and of every operation that is made, holds of
every operation of a resolution. -/
theorem forall_operations {o : Options} {v : Conventions} {d : Document} {r : Resolution}
    (h : ofDocument o v d = .ok r) {P : Operation → Prop}
    (hcopy : ∀ x operationId, P x → P { x with operationId })
    (hnamed : ∀ path method ofPath declared name,
      P (Operation.named (context o v d) r.models path method ofPath declared name).value) :
    ∀ e ∈ r.operations, ∀ x ∈ e.2, P x := by
  obtain ⟨os, hos, -, hrun⟩ := exists_run_ofDocument h
  intro e he x hx
  rw [hrun] at he
  obtain ⟨made, hmade, hx⟩ := Buckets.exists_mem_of_copy he hx
  obtain ⟨y, -, hbuilt⟩ := (List.mapM_eq_ok_iff.mp hos).exists_of_mem_right
    (Buckets.mem_filings_iff.mp hmade).1
  unfold DeclaredOperation.built Operation.ofDeclaration at hbuilt
  rw [Noted.value_bind] at hbuilt
  split at hbuilt
  · exact absurd hbuilt (by simp)
  · obtain rfl := Except.ok.inj hbuilt
    rw [hx]
    exact hcopy _ _ (hnamed _ _ _ _ _)

end Resolution
end ApiResolution
