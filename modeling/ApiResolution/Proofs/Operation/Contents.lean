import ApiResolution.Proofs.Operation.Classification

/-!
What the contents of an operation carry. A content without a request body carries every parameter.
Contents of a body carry, beside their own parameters, the declared ones that travel in a header, in
the query, in the path or in a cookie. So a declared parameter at another location, or at one that
is not known, is missing from the contents of a body, unless a content has an equal one of its own
(`carries_iff_of_built`).
-/

namespace ApiResolution

namespace Parameter

/-- A parameter but for its name in the target language and its mark, which each content sets
anew. -/
def bare (p : Parameter) : Parameter := { p with paramName := "", hasMore := false }

@[simp] theorem baseName_bare (p : Parameter) : p.bare.baseName = p.baseName := rfl

@[simp] theorem location_bare (p : Parameter) : p.bare.location = p.location := rfl

/-- The parameter travels in a header, in the query, in the path or in a cookie. -/
def BesideBody (p : Parameter) : Prop :=
  p.location = some .header ∨ p.location = some .query ∨ p.location = some .path ∨
    p.location = some .cookie

instance (p : Parameter) : Decidable p.BesideBody :=
  inferInstanceAs (Decidable (_ ∨ _ ∨ _ ∨ _))

/-- A list has a copy of a parameter, under any name and with any mark. -/
def HasCopyIn (p : Parameter) (ps : List Parameter) : Prop := ∃ q ∈ ps, q.bare = p.bare

variable {p : Parameter} {ps qs : List Parameter}

theorem hasCopyIn_iff : p.HasCopyIn ps ↔ p.bare ∈ ps.map bare := List.mem_map.symm

theorem hasCopyIn_of_mem (h : p ∈ ps) : p.HasCopyIn ps := ⟨p, h, rfl⟩

theorem hasCopyIn_append : p.HasCopyIn (ps ++ qs) ↔ p.HasCopyIn ps ∨ p.HasCopyIn qs := by
  simp only [hasCopyIn_iff, List.map_append, List.mem_append]

theorem map_bare_markHasMore (ps : List Parameter) : (markHasMore ps).map bare = ps.map bare :=
  map_markHasMore (fun _ _ => rfl) ps

theorem map_bare_renameFrom (taken : List String) (ps : List Parameter) :
    (renameFrom taken ps).map bare = ps.map bare := by
  induction ps generalizing taken with
  | nil => rfl
  | cons p ps ih =>
    rw [renameFrom, List.map_cons, List.map_cons, ih]
    rfl

theorem hasCopyIn_markHasMore : p.HasCopyIn (markHasMore ps) ↔ p.HasCopyIn ps := by
  rw [hasCopyIn_iff, hasCopyIn_iff, map_bare_markHasMore]

theorem hasCopyIn_requiredFirst : p.HasCopyIn (requiredFirst ps) ↔ p.HasCopyIn ps := by
  rw [hasCopyIn_iff, hasCopyIn_iff]
  exact ((perm_requiredFirst ps).map bare).mem_iff

theorem hasCopyIn_ensureUnique : p.HasCopyIn (ensureUnique ps) ↔ p.HasCopyIn ps := by
  rw [hasCopyIn_iff, hasCopyIn_iff, ensureUnique, map_bare_renameFrom]

end Parameter

namespace Operation

variable {p : Parameter} {sorted : Bool} {request : Request} {ps : List Parameter} {o : Operation}

/-- Finishing a content neither loses nor adds a parameter. -/
theorem hasCopyIn_finishContent {unique : Bool} {content : Content} :
    p.HasCopyIn (finishContent unique content).parameters ↔ p.HasCopyIn content.parameters := by
  unfold finishContent
  dsimp only
  rw [Parameter.hasCopyIn_markHasMore, Parameter.hasCopyIn_requiredFirst]
  split
  · exact Parameter.hasCopyIn_ensureUnique
  · exact Iff.rfl

/-- A copy of a parameter is at the location of the parameter. -/
theorem hasCopyIn_atLocation {location : ParameterLocation} (hp : p ∈ ps) :
    p.HasCopyIn (atLocation location ps) ↔ p.location = some location := by
  constructor
  · rintro ⟨q, hq, heq⟩
    rw [← p.location_bare, ← heq, q.location_bare]
    exact eq_of_beq (List.mem_filter.mp hq).2
  · exact fun hl => Parameter.hasCopyIn_of_mem (List.mem_filter.mpr ⟨hp, beq_iff_eq.mpr hl⟩)

theorem hasCopyIn_allParams (hp : p ∈ ps)
    (hlists : o.parameterLists = (withParameters sorted request ps o).parameterLists) :
    p.HasCopyIn o.allParams := by
  have hall : o.allParams = (withParameters sorted request ps o).allParams :=
    List.head_eq_of_cons_eq hlists
  have hgiven : p ∈ givenBy request ps := List.mem_append_right _ hp
  rw [hall, withParameters, Parameter.hasCopyIn_markHasMore]
  split
  · exact Parameter.hasCopyIn_requiredFirst.mpr (Parameter.hasCopyIn_of_mem hgiven)
  · exact Parameter.hasCopyIn_of_mem hgiven

/-- The lists that the contents of a body take over. -/
theorem hasCopyIn_beside (hp : p ∈ ps)
    (hlists : o.parameterLists = (withParameters sorted request ps o).parameterLists) :
    p.HasCopyIn (o.headerParams ++ o.queryParams ++ o.pathParams ++ o.cookieParams) ↔
      p.BesideBody := by
  simp only [parameterLists, withParameters, List.cons.injEq] at hlists
  obtain ⟨-, -, hpath, hquery, hheader, hcookie, -⟩ := hlists
  simp only [hpath, hquery, hheader, hcookie, Parameter.hasCopyIn_append,
    Parameter.hasCopyIn_markHasMore, hasCopyIn_atLocation hp, or_assoc, Parameter.BesideBody]

end Operation

namespace DeclaredOperation

variable {c : Context} {models : ModelMap} {x : DeclaredOperation} {o : Operation}

/-- A content carries a declared parameter if the request body gives no contents, if the parameter
travels beside bodies, or if the content has an equal one of its own, and not otherwise. -/
theorem carries_iff_of_built (h : x.built c models = .ok o) {i : Nat} {content : Content}
    (hi : o.contents[i]? = some content) {p : Parameter} (hp : p ∈ x.declaredParameters c) :
    p.HasCopyIn content.parameters ↔
      (x.request c).contents = [] ∨ p.BesideBody ∨
        ∃ own, (x.request c).contents[i]? = some own ∧ p.HasCopyIn own.parameters := by
  obtain ⟨name, rfl⟩ := eq_named_of_built h
  obtain ⟨hlists, hcontents, -⟩ :=
    Operation.withParameters_named c models x.path x.method x.pathParameters x.declared name
  rw [Operation.value_declaredParameters] at hlists
  rw [hcontents] at hi
  change (Operation.contentsOf _ (x.request c).contents _)[i]? = some content at hi
  unfold Operation.contentsOf at hi
  dsimp only at hi
  rw [List.getElem?_map] at hi
  obtain ⟨full, hfull, rfl⟩ := Option.map_eq_some_iff.mp hi
  rw [Operation.hasCopyIn_finishContent]
  split at hfull
  · next hnone =>
    obtain rfl : full = _ := (List.mem_singleton.mp (List.mem_of_getElem? hfull))
    exact iff_of_true (Operation.hasCopyIn_allParams hp hlists)
      (.inl (List.isEmpty_iff.mp hnone))
  · next hsome =>
    have hsome : (x.request c).contents ≠ [] := fun h => hsome (List.isEmpty_iff.mpr h)
    rw [List.getElem?_map] at hfull
    obtain ⟨own, hown, rfl⟩ := Option.map_eq_some_iff.mp hfull
    rw [Parameter.hasCopyIn_append, Operation.hasCopyIn_beside hp hlists, or_comm]
    simp only [hsome, hown, false_or, Option.some.injEq, exists_eq_left']

/-- An operation with a body and parameters at a known location, in a form and at an unknown one. -/
def searchPets : DeclaredOperation :=
  let text : Schema := .ofShape (.scalar .string)
  { path := "/pets"
    method := .post
    pathParameters := []
    declared :=
      { operationId := some "search"
        parameters := [
          .inline { name := "limit", location := "query", schema := some text },
          .inline { name := "note", location := "formData", schema := some text },
          .inline { name := "filter", location := "querystring", schema := some text }]
        requestBody := some (.inline
          { content := [("application/json", { schema := some text })] }) } }

/-- The parameter in the query is carried beside the body. -/
theorem carries_searchPets :
    ∃ o content p, searchPets.built ⟨{}, .neutral false, {}⟩ [] = .ok o ∧
      o.contents[0]? = some content ∧ p ∈ searchPets.declaredParameters ⟨{}, .neutral false, {}⟩ ∧
      p.baseName = "limit" ∧ p.HasCopyIn content.parameters := by
  have hcontents : (searchPets.built ⟨{}, .neutral false, {}⟩ []).toOption.map
      (fun o => o.contents[0]?.isSome) = some true := by decide +kernel
  have hdeclared : ((searchPets.declaredParameters ⟨{}, .neutral false, {}⟩).head?).map
      (fun p => (p.baseName, p.location)) = some ("limit", some .query) := by decide +kernel
  obtain ⟨o, ho, hcontents⟩ := Option.map_eq_some_iff.mp hcontents
  obtain ⟨content, hcontent⟩ := Option.isSome_iff_exists.mp hcontents
  obtain ⟨p, hp, hlimit⟩ := Option.map_eq_some_iff.mp hdeclared
  obtain ⟨hname, hquery⟩ := Prod.mk.inj hlimit
  have hp := List.mem_of_mem_head? hp
  have hbeside : p.BesideBody := .inr (.inl hquery)
  exact ⟨o, content, p, eq_ok_of_toOption ho, hcontent, hp, hname,
    (carries_iff_of_built (eq_ok_of_toOption ho) hcontent hp).mpr (.inr (.inl hbeside))⟩

end DeclaredOperation

namespace Resolution

/-- A document with that operation. -/
def searchedPets : Document :=
  { paths := [("/pets", { post := some DeclaredOperation.searchPets.declared })] }

/-- The parameters in the form and at an unknown location are listed, but the content of the body
has no copies of them. -/
theorem not_carries_searchedPets :
    ∃ r e x content, ofDocument {} (.neutral false) searchedPets = .ok r ∧ e ∈ r.operations ∧
      x ∈ e.2 ∧ content ∈ x.contents ∧
      x.allParams.map (fun p => (p.baseName, p.location)) =
        [("body", some .body), ("limit", some .query), ("note", some .form), ("filter", none)] ∧
      ∀ p : Parameter, p.HasCopyIn content.parameters →
        p.baseName = "body" ∨ p.baseName = "limit" := by
  have hrun : (ofDocument {} (.neutral false) searchedPets).toOption.bind
      (fun r => r.operations.head?.bind fun e => e.2.head?.bind fun x =>
        x.contents.head?.map fun content => (x.allParams.map fun p => (p.baseName, p.location),
          content.parameters.map (·.baseName))) =
      some ([("body", some .body), ("limit", some .query), ("note", some .form), ("filter", none)],
        ["body", "limit"]) := by decide +kernel
  obtain ⟨r, hr, hrun⟩ := Option.bind_eq_some_iff.mp hrun
  obtain ⟨e, he, hrun⟩ := Option.bind_eq_some_iff.mp hrun
  obtain ⟨x, hx, hrun⟩ := Option.bind_eq_some_iff.mp hrun
  obtain ⟨content, hcontent, hrun⟩ := Option.map_eq_some_iff.mp hrun
  obtain ⟨hall, hcarried⟩ := Prod.mk.inj hrun
  refine ⟨r, e, x, content, ofDocument_eq_ok hr, List.mem_of_mem_head? he,
    List.mem_of_mem_head? hx, List.mem_of_mem_head? hcontent, hall, ?_⟩
  rintro p ⟨q, hq, hcopy⟩
  have hmem : q.baseName ∈ content.parameters.map (·.baseName) := List.mem_map_of_mem hq
  rw [hcarried, ← q.baseName_bare, hcopy, p.baseName_bare] at hmem
  simpa using hmem

end Resolution
end ApiResolution
