import ApiResolution.Proofs.Model.Views
import ApiResolution.Proofs.Operation.Parts
import ApiResolution.Proofs.Resolution.Modes

/-!
The marks of the lists of a resolution. Members, parameters, responses and security schemes are
marked after the last change to their lists, so each mark tells whether an element follows. Headers
are never marked, so the marks of a list of headers are right only if it has at most one
(`marked_ofDocument`).
-/

namespace ApiResolution

/-- The lists of parameters and of responses of an operation are marked, and no header is. -/
structure Operation.Marks (x : Operation) : Prop where
  parameters : ∀ ps ∈ x.parameterLists, Marked (ps.map (·.hasMore))
  contents : ∀ content ∈ x.contents, Marked (content.parameters.map (·.hasMore))
  responses : Marked (x.responses.map (·.hasMore))
  headers : ∀ response ∈ x.responses, ∀ p ∈ response.headers, p.hasMore = false
  responseHeaders : ∀ p ∈ x.responseHeaders, p.hasMore = false

namespace Operation

variable {c : Context} {models : ModelMap} {path : String} {method : HttpMethod}
  {ofPath : List (OrReference ParameterObject)} {d : OperationObject} {name : String}

theorem hasMore_of_mem_ofHeaders {headers : Entries (OrReference HeaderObject)} {p : Property}
    (h : p ∈ (Response.ofHeaders c headers).value) : p.hasMore = false := by
  obtain ⟨name, s, description, required, rfl⟩ := Response.exists_ofSchema_of_mem_ofHeaders h
  exact Property.hasMore_ofSchema c name s

theorem marked_parameterLists_withParameters (sorted : Bool) (request : Request)
    (ps : List Parameter) (o : Operation) :
    ∀ list ∈ (withParameters sorted request ps o).parameterLists,
      Marked (list.map (·.hasMore)) := by
  intro list hlist
  simp only [parameterLists, withParameters, List.mem_cons, List.not_mem_nil, or_false] at hlist
  rcases hlist with rfl | rfl | rfl | rfl | rfl | rfl | rfl | rfl <;>
    exact Parameter.marked_markHasMore _

theorem marks_named : (named c models path method ofPath d name).value.Marks := by
  obtain ⟨hlists, hcontents, -⟩ := withParameters_named c models path method ofPath d name
  constructor
  case parameters =>
    rw [hlists]
    exact marked_parameterLists_withParameters _ _ _ _
  case contents =>
    intro content hcontent
    rw [hcontents] at hcontent
    obtain ⟨full, -, rfl⟩ := List.mem_map.mp hcontent
    exact Parameter.marked_markHasMore _
  case responses =>
    rw [responses_named]
    exact Response.marked_markHasMore _
  case headers =>
    refine forall_responses_named (P := fun r => ∀ p ∈ r.headers, p.hasMore = false)
      ⟨fun _ _ h => h, fun _ _ h => h⟩ fun code declared p hp => ?_
    rw [Response.headers_ofDeclaration] at hp
    exact hasMore_of_mem_ofHeaders hp
  case responseHeaders =>
    exact forall_responseHeaders_named fun _ _ => hasMore_of_mem_ofHeaders

end Operation

namespace Resolution

variable {o : Options} {v : Conventions} {d : Document} {r : Resolution}

/-- The marks of a list of members, of parameters, of responses or of security schemes. -/
inductive HasMarks (r : Resolution) : List Bool → Prop
  | vars {e : String × Model} (he : e ∈ r.models) : HasMarks r (e.2.vars.map (·.hasMore))
  | allVars {e : String × Model} (he : e ∈ r.models) : HasMarks r (e.2.allVars.map (·.hasMore))
  | parameters {e : String × List Operation} (he : e ∈ r.operations) {x : Operation}
      (hx : x ∈ e.2) {ps : List Parameter} (hps : ps ∈ x.parameterLists) :
      HasMarks r (ps.map (·.hasMore))
  | content {e : String × List Operation} (he : e ∈ r.operations) {x : Operation} (hx : x ∈ e.2)
      {content : Content} (hc : content ∈ x.contents) :
      HasMarks r (content.parameters.map (·.hasMore))
  | responses {e : String × List Operation} (he : e ∈ r.operations) {x : Operation}
      (hx : x ∈ e.2) : HasMarks r (x.responses.map (·.hasMore))
  | security : HasMarks r (r.security.map (·.hasMore))

/-- A list of headers: those of a response, or those that an operation returns. -/
inductive HasHeaders (r : Resolution) : List Property → Prop
  | ofResponse {e : String × List Operation} (he : e ∈ r.operations) {x : Operation} (hx : x ∈ e.2)
      {response : Response} (hresponse : response ∈ x.responses) : HasHeaders r response.headers
  | returned {e : String × List Operation} (he : e ∈ r.operations) {x : Operation}
      (hx : x ∈ e.2) : HasHeaders r x.responseHeaders

theorem marks_of_mem_operations (h : ofDocument o v d = .ok r) :
    ∀ e ∈ r.operations, ∀ x ∈ e.2, x.Marks := by
  refine forall_operations h ?_ fun _ _ _ _ _ => Operation.marks_named
  exact fun x operationId hx =>
    ⟨hx.parameters, hx.contents, hx.responses, hx.headers, hx.responseHeaders⟩

theorem marked_security (h : ofDocument o v d = .ok r) : Marked (r.security.map (·.hasMore)) := by
  have hsecurity := security_of_ofDocument h
  rw [SecurityScheme.value_ofDocument] at hsecurity
  cases hdeclared : (SecurityScheme.declarations (context o v d).document).mapM fun e =>
      SecurityScheme.ofDeclaration e.1 e.2 with
  | error failure =>
    rw [hdeclared] at hsecurity
    exact absurd hsecurity (by simp [Except.map])
  | ok ss =>
    rw [hdeclared] at hsecurity
    rw [← Except.ok.inj hsecurity]
    exact SecurityScheme.marked_markHasMore _

/-- Elements that are all without a mark are marked right if there is at most one. -/
theorem marked_headers_iff {headers : List Property} (h : ∀ p ∈ headers, p.hasMore = false) :
    Marked (headers.map (·.hasMore)) ↔ headers.length ≤ 1 := by
  have hmarks : headers.map (·.hasMore) = List.replicate headers.length false :=
    List.map_eq_replicate_iff.mpr h
  rw [hmarks]
  exact marked_replicate_false_iff

/-- In a resolution, the marks of every list of members, parameters, responses or security schemes
tell each element but the last one from the last one. Those of a list of headers do so exactly when
it has at most one header. -/
theorem marked_ofDocument (h : ofDocument o v d = .ok r) :
    (∀ marks, r.HasMarks marks → Marked marks) ∧
      ∀ headers, r.HasHeaders headers → (Marked (headers.map (·.hasMore)) ↔ headers.length ≤ 1) := by
  have hoperations := marks_of_mem_operations h
  have hmodels : ∀ e ∈ r.models, e.2.Indexed := by
    rw [(of_ofDocument h).models]
    exact ModelMap.indexed_ofDocument _
  constructor
  · intro marks hmarks
    cases hmarks with
    | vars he => exact (hmodels _ he).marked.1
    | allVars he => exact (hmodels _ he).marked.2
    | parameters he hx hps => exact (hoperations _ he _ hx).parameters _ hps
    | content he hx hc => exact (hoperations _ he _ hx).contents _ hc
    | responses he hx => exact (hoperations _ he _ hx).responses
    | security => exact marked_security h
  · intro headers hheaders
    refine marked_headers_iff ?_
    cases hheaders with
    | ofResponse he hx hresponse => exact (hoperations _ he _ hx).headers _ hresponse
    | returned he hx => exact (hoperations _ he _ hx).responseHeaders

/-- An operation with two parameters that returns two headers. -/
def pagedPets : Document :=
  { paths := [("/pets",
      { get := some
          { operationId := some "list"
            parameters := [
              .inline { name := "limit", location := "query", schema := some (.scalar .integer) },
              .inline { name := "after", location := "query", schema := some (.scalar .string) }]
            responses := [("200", .inline
              { headers := [
                  ("X-Next", .inline { schema := some (.scalar .string) }),
                  ("X-Total", .inline { schema := some (.scalar .integer) })] })] } })] }

/-- The marks of the parameters are right. -/
theorem marked_pagedPets :
    ∃ r e x, ofDocument {} (.neutral false) pagedPets = .ok r ∧ e ∈ r.operations ∧ x ∈ e.2 ∧
      x.queryParams.length = 2 ∧ Marked (x.queryParams.map (·.hasMore)) ∧
      (Marked (x.responseHeaders.map (·.hasMore)) ↔ x.responseHeaders.length ≤ 1) := by
  have hrun : (ofDocument {} (.neutral false) pagedPets).toOption.map
      (fun r => r.operations.map fun e => e.2.map (·.queryParams.length)) = some [[2]] := by
    decide +kernel
  obtain ⟨r, hr, hlengths⟩ := Option.map_eq_some_iff.mp hrun
  replace hr := ofDocument_eq_ok hr
  obtain ⟨e, he, hlist⟩ := List.mem_map.mp (hlengths ▸ List.mem_singleton_self _)
  obtain ⟨x, hx, hlength⟩ := List.mem_map.mp (hlist ▸ List.mem_singleton_self _)
  obtain ⟨hmarked, hheaders⟩ := marked_ofDocument hr
  refine ⟨r, e, x, hr, he, hx, hlength, hmarked _ (.parameters he hx ?_), hheaders _ (.returned he hx)⟩
  simp [Operation.parameterLists]

/-- No header of a response is marked as followed by another, though one is. -/
theorem not_marked_pagedPets :
    ∃ r e x response, ofDocument {} (.neutral false) pagedPets = .ok r ∧ e ∈ r.operations ∧
      x ∈ e.2 ∧ response ∈ x.responses ∧ response.headers.map (·.hasMore) = [false, false] ∧
      ¬ Marked (response.headers.map (·.hasMore)) ∧
      ¬ Marked (x.responseHeaders.map (·.hasMore)) := by
  have hrun : (ofDocument {} (.neutral false) pagedPets).toOption.map
      (fun r => r.operations.map fun e => e.2.map fun x =>
        (x.responses.map (·.headers.map (·.hasMore)), x.responseHeaders.map (·.hasMore))) =
      some [[([[false, false]], [false, false])]] := by decide +kernel
  obtain ⟨r, hr, hmarks⟩ := Option.map_eq_some_iff.mp hrun
  obtain ⟨e, he, hlist⟩ := List.mem_map.mp (hmarks ▸ List.mem_singleton_self _)
  obtain ⟨x, hx, hfacts⟩ := List.mem_map.mp (hlist ▸ List.mem_singleton_self _)
  obtain ⟨hresponses, hreturned⟩ := Prod.mk.inj hfacts
  obtain ⟨response, hresponse, hheaders⟩ :=
    List.mem_map.mp (hresponses ▸ List.mem_singleton_self _)
  refine ⟨r, e, x, response, ofDocument_eq_ok hr, he, hx, hresponse, hheaders, ?_, ?_⟩
  · rw [hheaders]
    decide
  · rw [hreturned]
    decide

end Resolution
end ApiResolution
