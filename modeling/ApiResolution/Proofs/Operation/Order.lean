import ApiResolution.Proofs.Operation.Contents
import ApiResolution.Proofs.Operation.Media

/-!
The order of the parameters of a content. A request body that gives an operation no content gives it
no parameters either (`Request.Backed`), so the operation has the declared ones only, and lists them
in the declared order unless they are to be sorted. Its one content has them with the required ones
first in either case. So the content keeps the order of that list if the list was sorted too or if
no required parameter is declared behind an optional one, and not otherwise
(`contentOrder_iff_of_built`).
-/

namespace ApiResolution

namespace Parameter

variable {ps : List Parameter}

/-- No required parameter stands behind an optional one. -/
def RequiredLead (ps : List Parameter) : Prop :=
  ps.Pairwise fun p q => q.required = true → p.required = true

instance (ps : List Parameter) : Decidable (RequiredLead ps) :=
  inferInstanceAs (Decidable (ps.Pairwise fun p q => q.required = true → p.required = true))

theorem requiredLead_map_bare : RequiredLead (ps.map bare) ↔ RequiredLead ps :=
  List.pairwise_map

theorem requiredLead_requiredFirst (ps : List Parameter) : RequiredLead (requiredFirst ps) := by
  refine List.pairwise_append.mpr ⟨?_, ?_, ?_⟩
  · exact List.pairwise_of_forall_mem_list fun p hp _ _ _ => (List.mem_filter.mp hp).2
  · refine List.pairwise_of_forall_mem_list fun p _ q hq hrequired => ?_
    have hoptional := (List.mem_filter.mp hq).2
    rw [hrequired] at hoptional
    exact absurd hoptional (by simp)
  · exact fun p hp _ _ _ => (List.mem_filter.mp hp).2

/-- Setting required parameters first changes nothing exactly if they stand first already. -/
theorem requiredFirst_eq_self_iff : requiredFirst ps = ps ↔ RequiredLead ps := by
  constructor
  · intro h
    exact h ▸ requiredLead_requiredFirst ps
  · intro h
    induction ps with
    | nil => rfl
    | cons p ps ih =>
      obtain ⟨hp, hps⟩ := List.pairwise_cons.mp h
      cases hrequired : p.required with
      | true =>
        have hrest := ih hps
        unfold requiredFirst at hrest ⊢
        simp [hrequired, hrest]
      | false =>
        have hoptional : ∀ q ∈ p :: ps, q.required = false := by
          refine List.forall_mem_cons.mpr ⟨hrequired, fun q hq => Bool.eq_false_iff.mpr fun hq' => ?_⟩
          exact absurd (hp q hq hq') (by simp [hrequired])
        have hnone : (p :: ps).filter (·.required) = [] :=
          List.filter_eq_nil_iff.mpr fun q hq => by simp [hoptional q hq]
        have hall : (p :: ps).filter (!·.required) = p :: ps :=
          List.filter_eq_self.mpr fun q hq => by simp [hoptional q hq]
        rw [requiredFirst, hnone, hall, List.nil_append]

theorem requiredFirst_requiredFirst (ps : List Parameter) :
    requiredFirst (requiredFirst ps) = requiredFirst ps :=
  requiredFirst_eq_self_iff.mpr (requiredLead_requiredFirst ps)

theorem map_bare_requiredFirst (ps : List Parameter) :
    (requiredFirst ps).map bare = requiredFirst (ps.map bare) := by
  unfold requiredFirst
  rw [List.map_append, List.filter_map, List.filter_map]
  rfl

theorem map_bare_unmarked (ps : List Parameter) : (ps.map unmarked).map bare = ps.map bare := by
  rw [List.map_map]
  rfl

end Parameter

namespace Request

/-- What a request body contributes to the lists of an operation is in a content. -/
def Backed (r : Request) : Prop := r.contents = [] → r.formParams = [] ∧ r.bodyParam = none

theorem backed_of_bodies_ne_nil {r : Request} (h : r.bodies ≠ []) : r.Backed :=
  fun hnone => absurd (List.map_eq_nil_iff.mp hnone) h

variable {c : Context} {body : RequestBodyObject} {r : Request}

theorem Backed.addForm (h : r.Backed) (contentType : String) (ps : List (Using Parameter)) :
    (r.addForm contentType ps).Backed := by
  unfold Request.addForm
  dsimp only
  split
  · exact h
  · exact backed_of_bodies_ne_nil (List.append_ne_nil_of_right_ne_nil _ (List.cons_ne_nil _ _))

theorem backed_addBody (r : Request) (contentType : String) (schema : Option Schema)
    (p : Using Parameter) : (r.addBody contentType schema p).Backed :=
  backed_of_bodies_ne_nil (List.append_ne_nil_of_right_ne_nil _ (List.cons_ne_nil _ _))

theorem Backed.addMedia (h : r.Backed) (contentType : String) (media : MediaTypeObject) :
    (r.addMedia c body contentType media).value.Backed := by
  unfold Request.addMedia
  dsimp only
  split
  · exact Backed.addForm (r := { r with consumes := r.consumes ++ [contentType] }) h contentType _
  · split
    · next bodies hshare =>
      obtain ⟨before, b, after, -, -, rfl⟩ := share?_eq_some hshare
      exact backed_of_bodies_ne_nil (by simp)
    · exact backed_addBody _ contentType _ _

theorem Backed.addAll (h : r.Backed) (media : List (String × MediaTypeObject)) :
    (addAll c body media r).value.Backed := by
  induction media generalizing r with
  | nil => exact h
  | cons e media ih =>
    rw [Request.addAll, Noted.value_bind]
    exact ih (h.addMedia e.1 e.2)

theorem backed_requestOf (c : Context) (d : OperationObject) :
    (Operation.requestOf c d).value.Backed := by
  have hempty : Backed {} := fun _ => ⟨rfl, rfl⟩
  unfold Operation.requestOf
  split
  · exact hempty
  · simp only [Noted.value_bind]
    split
    · exact hempty.addAll _
    · exact hempty

end Request

namespace Operation

/-- Finishing a content sets its required parameters first. -/
theorem map_bare_finishContent (unique : Bool) (content : Content) :
    (finishContent unique content).parameters.map Parameter.bare =
      Parameter.requiredFirst (content.parameters.map Parameter.bare) := by
  unfold finishContent
  dsimp only
  rw [Parameter.map_bare_markHasMore, Parameter.map_bare_requiredFirst]
  split
  · rw [Parameter.ensureUnique, Parameter.map_bare_renameFrom]
  · rfl

end Operation

namespace DeclaredOperation

variable {c : Context} {models : ModelMap} {x : DeclaredOperation} {o : Operation}

/-- Without a content of the request body, only declared parameters are given. -/
theorem given_of_contents_eq_nil (hnone : (x.request c).contents = []) :
    x.given c = x.declaredParameters c := by
  obtain ⟨hform, hbody⟩ := Request.backed_requestOf c x.declared hnone
  unfold given Operation.givenBy request
  rw [hform, hbody]
  rfl

/-- Without a content of the request body, an operation lists the declared parameters, sorted if that
is asked for. -/
theorem allParams_of_contents_eq_nil (hnone : (x.request c).contents = [])
    (hlists : o.parameterLists = (Operation.withParameters c.options.sortParamsByRequired
      (x.request c) (x.declaredParameters c) o).parameterLists) :
    o.allParams.map Parameter.unmarked =
      (if c.options.sortParamsByRequired then Parameter.requiredFirst (x.declaredParameters c)
        else x.declaredParameters c).map Parameter.unmarked := by
  have hgiven : Operation.givenBy (x.request c) (x.declaredParameters c) = x.declaredParameters c :=
    given_of_contents_eq_nil hnone
  rw [List.head_eq_of_cons_eq hlists, Operation.map_unmarked_allParams, hgiven]

/-- Without a content of the request body, an operation has one content. It has the declared
parameters with the required ones first, whether parameters are to be sorted or not. Its order is
that of all parameters exactly if these are to be sorted too, or if no required parameter is
declared behind an optional one. -/
theorem contentOrder_iff_of_built (h : x.built c models = .ok o)
    (hnone : (x.request c).contents = []) :
    ∃ content, o.contents = [content] ∧
      content.parameters.map Parameter.bare =
        (Parameter.requiredFirst (x.declaredParameters c)).map Parameter.bare ∧
      (c.options.sortParamsByRequired = false →
        o.allParams.map Parameter.unmarked =
          (x.declaredParameters c).map Parameter.unmarked) ∧
      (content.parameters.map Parameter.bare = o.allParams.map Parameter.bare ↔
        c.options.sortParamsByRequired = true ∨
          Parameter.RequiredLead (x.declaredParameters c)) := by
  obtain ⟨name, rfl⟩ := eq_named_of_built h
  obtain ⟨hlists, hcontents, -⟩ :=
    Operation.withParameters_named c models x.path x.method x.pathParameters x.declared name
  rw [Operation.value_declaredParameters] at hlists
  have hall := allParams_of_contents_eq_nil hnone hlists
  have hbare := congrArg (List.map Parameter.bare) hall
  rw [Parameter.map_bare_unmarked, Parameter.map_bare_unmarked] at hbare
  change _ = Operation.contentsOf _ (x.request c).contents _ at hcontents
  rw [hnone] at hcontents
  refine ⟨_, hcontents, ?_⟩
  rw [Operation.map_bare_finishContent]
  dsimp only
  rw [hbare]
  cases hsorted : c.options.sortParamsByRequired with
  | true =>
    rw [hsorted, if_pos rfl] at hall
    rw [if_pos rfl, ← Parameter.map_bare_requiredFirst, Parameter.requiredFirst_requiredFirst]
    exact ⟨rfl, fun hs => absurd hs (by simp), iff_of_true rfl (.inl rfl)⟩
  | false =>
    rw [hsorted, if_neg Bool.false_ne_true] at hall
    rw [if_neg Bool.false_ne_true, Parameter.requiredFirst_eq_self_iff,
      Parameter.requiredLead_map_bare]
    exact ⟨(Parameter.map_bare_requiredFirst _).symm, fun _ => hall, by simp⟩

/-- An operation with a required header and, from its path, an optional page. Its form has no
fields, so it has no content. -/
def tracePets : DeclaredOperation :=
  let text : Schema := .ofShape (.scalar .string)
  { path := "/pets"
    method := .post
    pathParameters := [.inline { name := "page", location := "query", schema := some text }]
    declared :=
      { operationId := some "trace"
        parameters := [
          .inline { name := "X-Trace", location := "header", required := true, schema := some text }]
        requestBody := some (.inline
          { content := [(MediaType.multipartFormData, { schema := some text })] }) } }

/-- The header is declared in front of the page, so the content has the order of all parameters. -/
theorem contentOrder_tracePets :
    ∃ o content, tracePets.built ⟨{ sortParamsByRequired := false }, .neutral false, {}⟩ [] = .ok o ∧
      (tracePets.request ⟨{ sortParamsByRequired := false }, .neutral false, {}⟩).contents = [] ∧
      o.contents = [content] ∧
      content.parameters.map Parameter.bare = o.allParams.map Parameter.bare ∧
      o.allParams.map (·.baseName) = ["X-Trace", "page"] := by
  have hnames : (tracePets.built ⟨{ sortParamsByRequired := false }, .neutral false, {}⟩
      []).toOption.map (fun o => o.allParams.map (·.baseName)) = some ["X-Trace", "page"] := by
    decide +kernel
  have hnone : (tracePets.request
      ⟨{ sortParamsByRequired := false }, .neutral false, {}⟩).contents = [] :=
    List.isEmpty_iff.mp (by decide +kernel)
  have hlead : Parameter.RequiredLead (tracePets.declaredParameters
      ⟨{ sortParamsByRequired := false }, .neutral false, {}⟩) := by decide +kernel
  obtain ⟨o, ho, hnames⟩ := Option.map_eq_some_iff.mp hnames
  obtain ⟨content, hcontent, -, -, hiff⟩ :=
    contentOrder_iff_of_built (eq_ok_of_toOption ho) hnone
  exact ⟨o, content, eq_ok_of_toOption ho, hnone, hcontent, hiff.mpr (.inr hlead), hnames⟩

end DeclaredOperation

namespace Resolution

/-- A document with an operation that declares an optional limit and then a required header, and no
request body. -/
def tracedPets : Document :=
  let text : Schema := .ofShape (.scalar .string)
  let listed : OperationObject :=
    { operationId := some "list"
      parameters := [
        .inline { name := "limit", location := "query", schema := some text },
        .inline { name := "X-Trace", location := "header", required := true, schema := some text }] }
  { paths := [("/pets", { get := some listed })] }

/-- Parameters are not to be sorted, and all of them are listed as they are declared. The content has
the header first. -/
theorem not_contentOrder_tracedPets :
    ∃ r e x content,
      ofDocument { sortParamsByRequired := false } (.neutral false) tracedPets = .ok r ∧
      e ∈ r.operations ∧ x ∈ e.2 ∧ x.contents = [content] ∧
      x.allParams.map (·.baseName) = ["limit", "X-Trace"] ∧
      content.parameters.map (·.baseName) = ["X-Trace", "limit"] ∧
      content.parameters.map Parameter.bare ≠ x.allParams.map Parameter.bare := by
  have hrun : (ofDocument { sortParamsByRequired := false } (.neutral false)
      tracedPets).toOption.bind (fun r => r.operations.head?.bind fun e => e.2.head?.map fun x =>
        (x.allParams.map (·.baseName), x.contents.map fun content =>
          content.parameters.map (·.baseName))) =
      some (["limit", "X-Trace"], [["X-Trace", "limit"]]) := by decide +kernel
  obtain ⟨r, hr, hrun⟩ := Option.bind_eq_some_iff.mp hrun
  obtain ⟨e, he, hrun⟩ := Option.bind_eq_some_iff.mp hrun
  obtain ⟨x, hx, hrun⟩ := Option.map_eq_some_iff.mp hrun
  obtain ⟨hall, hcontents⟩ := Prod.mk.inj hrun
  obtain ⟨content, hcontent, hcarried⟩ := List.map_eq_singleton_iff.mp hcontents
  refine ⟨r, e, x, content, ofDocument_eq_ok hr, List.mem_of_mem_head? he,
    List.mem_of_mem_head? hx, hcontent, hall, hcarried, fun hbare => ?_⟩
  have hnames := congrArg (List.map (·.baseName)) hbare
  simp only [List.map_map, Function.comp_def, Parameter.baseName_bare, hall, hcarried] at hnames
  exact absurd hnames (by decide)

end Resolution
end ApiResolution
