import ApiResolution.Proofs.Operation.Parts

/-!
Where the parameters of an operation are listed. An operation is given the parameters of its request
body and those of its declarations: its own ones, then the ones of its path that it does not declare
itself, each deep object replaced by its leaves (`declaredOf`). By conventions that change no
finished parameter, every given parameter is listed as often as it was given among all parameters
and, in the given order, at its location and nowhere else (`classifies_of_built`). The operations of
a resolution list theirs in this way too (`classifies_ofDocument`).
-/

namespace ApiResolution

/-! ## Given parameters -/

/-- A parameter whatever its mark. -/
def Parameter.unmarked (p : Parameter) : Parameter := { p with hasMore := false }

namespace Parameter

@[simp] theorem location_unmarked (p : Parameter) : p.unmarked.location = p.location := rfl

@[simp] theorem required_unmarked (p : Parameter) : p.unmarked.required = p.required := rfl

theorem location_of_unmarked {p q : Parameter} (h : q.unmarked = p.unmarked) :
    q.location = p.location := by
  rw [← q.location_unmarked, h, p.location_unmarked]

theorem map_unmarked_markHasMore (ps : List Parameter) :
    (markHasMore ps).map unmarked = ps.map unmarked :=
  map_markHasMore (fun _ _ => rfl) ps

/-- What does not look at marks selects the same parameters, whatever their marks. -/
theorem map_unmarked_filter {select : Parameter → Bool} (hs : ∀ p, select p.unmarked = select p)
    (ps : List Parameter) :
    (ps.filter select).map unmarked = (ps.map unmarked).filter select := by
  rw [List.filter_map]
  exact congrArg (List.map unmarked) (List.filter_congr fun p _ => (hs p).symm)

/-- Setting required parameters first keeps every parameter. -/
theorem perm_requiredFirst (ps : List Parameter) : (requiredFirst ps).Perm ps :=
  List.filter_append_perm (fun p : Parameter => p.required) ps

/-- The required parameters stay in order when they are set first. -/
theorem filter_required_requiredFirst (ps : List Parameter) :
    (requiredFirst ps).filter (·.required) = ps.filter (·.required) := by
  have hrest : (ps.filter (!·.required)).filter (·.required) = [] := by
    refine List.filter_eq_nil_iff.mpr fun p hp => ?_
    simpa using (List.mem_filter.mp hp).2
  rw [requiredFirst, List.filter_append, hrest, List.append_nil, List.filter_filter]
  simp only [Bool.and_self]

end Parameter

/-! ## Where a request body puts its parameters -/

namespace Parameter

variable {c : Context}

theorem ofDeclaration_placed (hv : ∀ p, c.conventions.finishParameter p = p)
    (d : ParameterObject) :
    let p := (ofDeclaration c d).value.value
    p.location = ParameterLocation.ofKeyword? d.location ∧
      p.required = (d.required || p.location == some .path) := by
  have htyped : ∀ s contentType, let p := (ofSchema c d s contentType).value.value
      p.location = ParameterLocation.ofKeyword? d.location ∧
        p.required = (d.required || p.location == some .path) := by
    intro s contentType
    unfold ofSchema
    simp only [Noted.value_bind, Noted.value_pure, hv]
    exact ⟨rfl, rfl⟩
  unfold ofDeclaration
  split
  · exact htyped _ _
  · exact htyped _ _

theorem location_ofBody (hv : ∀ p, c.conventions.finishParameter p = p) (body : RequestBodyObject)
    (contentType : String) (media : MediaTypeObject) :
    (ofBody c body contentType media).value.value.location = some .body := by
  unfold ofBody
  dsimp only
  split
  · simp only [Noted.value_bind, Noted.value_pure, hv, withBodyType]
    split <;> rfl
  · simp only [Noted.value_bind, Noted.value_pure, hv]
    rfl

/-- Every parameter of a form travels in the form. -/
theorem location_ofForm (hv : ∀ p, c.conventions.finishParameter p = p) {contentType : String}
    {schema : Option Schema} :
    ∀ u ∈ (ofForm c contentType schema).value, u.value.location = some .form := by
  have hform : ParameterLocation.ofKeyword? "formData" = some .form := by decide +kernel
  intro u hu
  unfold ofForm at hu
  split at hu
  · exact absurd hu (by simp)
  · simp only [Noted.value_bind, Noted.value_pure, Noted.value_mapList, List.map_map] at hu
    obtain ⟨e, -, rfl⟩ := List.mem_map.mp hu
    exact ((ofDeclaration_placed hv _).1).trans hform

end Parameter

namespace Request

/-- The parameters of a request body travel in the form or in the body. -/
structure Placed (r : Request) : Prop where
  formParams : ∀ p ∈ r.formParams, p.location = some .form
  bodyParam : ∀ p ∈ r.bodyParam, p.location = some .body

variable {c : Context} {body : RequestBodyObject} {r : Request}

theorem Placed.addForm (h : r.Placed) (contentType : String) {ps : List (Using Parameter)}
    (hps : ∀ u ∈ ps, u.value.location = some .form) : (r.addForm contentType ps).Placed := by
  unfold Request.addForm
  dsimp only
  split
  · exact h
  · exact ⟨List.forall_mem_append.mpr ⟨h.formParams, List.forall_mem_map.mpr hps⟩, h.bodyParam⟩

theorem Placed.addBody (h : r.Placed) (contentType : String) (schema : Option Schema)
    {p : Using Parameter} (hp : p.value.location = some .body) :
    (r.addBody contentType schema p).Placed where
  formParams := h.formParams
  bodyParam q hq := by
    rcases Option.or_eq_some_iff.mp hq with hq | ⟨-, hq⟩
    · exact h.bodyParam q hq
    · rwa [← Option.some.inj hq]

theorem Placed.addMedia (hv : ∀ p, c.conventions.finishParameter p = p) (h : r.Placed)
    (contentType : String) (media : MediaTypeObject) :
    (r.addMedia c body contentType media).value.Placed := by
  have hconsumes : Placed { r with consumes := r.consumes ++ [contentType] } :=
    ⟨h.formParams, h.bodyParam⟩
  unfold Request.addMedia
  dsimp only
  split
  · exact hconsumes.addForm contentType (Parameter.location_ofForm hv)
  · split
    · exact ⟨h.formParams, h.bodyParam⟩
    · exact hconsumes.addBody contentType _ (Parameter.location_ofBody hv body contentType media)

theorem Placed.addAll (hv : ∀ p, c.conventions.finishParameter p = p) (h : r.Placed)
    (media : List (String × MediaTypeObject)) : (addAll c body media r).value.Placed := by
  induction media generalizing r with
  | nil => exact h
  | cons e media ih =>
    rw [Request.addAll, Noted.value_bind]
    exact ih (h.addMedia hv e.1 e.2)

theorem placed_requestOf (hv : ∀ p, c.conventions.finishParameter p = p) (d : OperationObject) :
    (Operation.requestOf c d).value.Placed := by
  have hempty : Placed {} := ⟨by simp, by simp⟩
  unfold Operation.requestOf
  split
  · exact hempty
  · simp only [Noted.value_bind]
    split
    · exact hempty.addAll hv _
    · exact hempty

end Request

/-! ## The lists of an operation -/

namespace Operation

/-- The declarations that references in a list lead to, in order. -/
def resolved (c : Context) (parts : List (OrReference ParameterObject)) : List ParameterObject :=
  parts.filterMap fun part => (c.parameter? part).value

/-- The declarations of an operation, then those of its path of which it has none with the same name
at the same location; the case of ASCII letters in a location does not count. -/
def declarations (c : Context) (ofPath ofOperation : List (OrReference ParameterObject)) :
    List ParameterObject :=
  resolved c ofOperation ++ (resolved c ofPath).filter fun p =>
    ∀ q ∈ resolved c ofOperation,
      ¬ (q.name = p.name ∧ Text.toLowerAscii q.location = Text.toLowerAscii p.location)

/-- The declared parameters of an operation, leaves in place of deep objects. -/
def declaredOf (c : Context) (ofPath ofOperation : List (OrReference ParameterObject)) :
    List Parameter :=
  ((declarations c ofPath ofOperation).flatMap fun d => (d.deepObject? c).getD [d]).map fun d =>
    (Parameter.ofDeclaration c d).value.value

/-- The parameters that a request body and declarations give to an operation. -/
def givenBy (request : Request) (ps : List Parameter) : List Parameter :=
  request.formParams ++ request.bodyParam.toList ++ ps

/-- The list of the parameters at a location. -/
def listAt (o : Operation) : ParameterLocation → List Parameter
  | .path => o.pathParams
  | .query => o.queryParams
  | .header => o.headerParams
  | .cookie => o.cookieParams
  | .body => o.bodyParams
  | .form => o.formParams

/-- An operation lists given parameters, marks aside. -/
structure Classifies (o : Operation) (requiredFirst : Bool) (given : List Parameter) : Prop where
  perm : (o.allParams.map Parameter.unmarked).Perm (given.map Parameter.unmarked)
  listAt : ∀ location, (o.listAt location).map Parameter.unmarked =
    (given.filter (·.location = some location)).map Parameter.unmarked
  mem_listAt_iff : ∀ p ∈ o.allParams, ∀ location,
    (∃ q ∈ o.listAt location, q.unmarked = p.unmarked) ↔ p.location = some location
  requiredParams : o.requiredParams.map Parameter.unmarked =
    (o.allParams.filter (·.required)).map Parameter.unmarked
  required_of_path : ∀ p ∈ o.allParams, p.location = some .path → p.required = true
  sorted : requiredFirst = true → o.allParams.map Parameter.unmarked =
    (given.filter (·.required) ++ given.filter (!·.required)).map Parameter.unmarked
  unsorted : requiredFirst = false →
    o.allParams.map Parameter.unmarked = given.map Parameter.unmarked

/-! ## Where the given parameters are -/

variable {c : Context}

theorem value_filterMapList_parameter? (parts : List (OrReference ParameterObject)) :
    (Noted.filterMapList c.parameter? parts).value = resolved c parts := by
  simp only [Noted.filterMapList, Noted.value_bind, Noted.value_pure, Noted.value_mapList,
    List.filterMap_map, resolved]
  rfl

theorem value_mergeParameters (ofPath ofOperation : List (OrReference ParameterObject)) :
    (mergeParameters c ofPath ofOperation).value = declarations c ofPath ofOperation := by
  simp only [mergeParameters, Noted.value_bind, Noted.value_pure, value_filterMapList_parameter?,
    declarations]
  congr 1
  refine List.filter_congr fun p _ => ?_
  rw [Bool.eq_iff_iff]
  simp [sameParameter]

theorem value_declaredParameters (ofPath ofOperation : List (OrReference ParameterObject)) :
    (declaredParameters c ofPath ofOperation).value.map (·.value) =
      declaredOf c ofPath ofOperation := by
  simp only [declaredParameters, Noted.value_bind, Noted.value_mapList, value_mergeParameters,
    List.map_map, declaredOf]
  rfl

/-- Parameters of one location are all at it and none is elsewhere. -/
theorem filter_location {ps : List Parameter} {location : ParameterLocation}
    (h : ∀ p ∈ ps, p.location = some location) (other : ParameterLocation) :
    ps.filter (·.location = some other) = if location = other then ps else [] := by
  split
  · next heq =>
    refine List.filter_eq_self.mpr fun p hp => ?_
    rw [h p hp, heq, decide_eq_true rfl]
  · next hne =>
    refine List.filter_eq_nil_iff.mpr fun p hp => ?_
    simpa [h p hp] using hne

theorem exists_given_of_perm {listed given : List Parameter}
    (h : (listed.map Parameter.unmarked).Perm (given.map Parameter.unmarked)) {p : Parameter}
    (hp : p ∈ listed) : ∃ g ∈ given, g.unmarked = p.unmarked :=
  List.mem_map.mp (h.subset (List.mem_map_of_mem hp))

/-- Where the lists by location are parts of the given parameters, a parameter is at its location
and nowhere else. -/
theorem mem_listAt_iff_of_perm {o : Operation} {given : List Parameter}
    (hperm : (o.allParams.map Parameter.unmarked).Perm (given.map Parameter.unmarked))
    (hlist : ∀ location, (o.listAt location).map Parameter.unmarked =
      (given.filter (·.location = some location)).map Parameter.unmarked) :
    ∀ p ∈ o.allParams, ∀ location,
      (∃ q ∈ o.listAt location, q.unmarked = p.unmarked) ↔ p.location = some location := by
  intro p hp location
  rw [← List.mem_map, hlist, List.mem_map]
  constructor
  · rintro ⟨g, hg, heq⟩
    rw [← Parameter.location_of_unmarked heq]
    exact of_decide_eq_true (List.mem_filter.mp hg).2
  · intro hl
    obtain ⟨g, hg, heq⟩ := exists_given_of_perm hperm hp
    have hgl : g.location = some location := (Parameter.location_of_unmarked heq).trans hl
    exact ⟨g, List.mem_filter.mpr ⟨hg, decide_eq_true hgl⟩, heq⟩

section WithParameters

variable {request : Request} {ps : List Parameter}

theorem map_unmarked_allParams (sorted : Bool) (o : Operation) :
    (withParameters sorted request ps o).allParams.map Parameter.unmarked =
      (if sorted then Parameter.requiredFirst (givenBy request ps)
        else givenBy request ps).map Parameter.unmarked :=
  Parameter.map_unmarked_markHasMore _

/-- A listed parameter is a given one but for its mark. -/
theorem perm_allParams_withParameters (sorted : Bool) (o : Operation) :
    ((withParameters sorted request ps o).allParams.map Parameter.unmarked).Perm
      ((givenBy request ps).map Parameter.unmarked) := by
  rw [map_unmarked_allParams]
  split
  · exact (Parameter.perm_requiredFirst _).map _
  · exact .refl _

theorem map_unmarked_listAt (hrequest : request.Placed) (sorted : Bool) (o : Operation)
    (location : ParameterLocation) :
    ((withParameters sorted request ps o).listAt location).map Parameter.unmarked =
      ((givenBy request ps).filter (·.location = some location)).map Parameter.unmarked := by
  have hbody : ∀ p ∈ request.bodyParam.toList, p.location = some .body :=
    fun p hp => hrequest.bodyParam p (Option.mem_toList.mp hp)
  rw [givenBy, List.filter_append, List.filter_append, filter_location hrequest.formParams,
    filter_location hbody]
  have hps : ps.filter (·.location = some location) = atLocation location ps :=
    List.filter_congr fun p _ => (beq_eq_decide ..).symm
  rw [hps]
  cases location <;> simp only [reduceCtorEq, if_true, if_false, List.append_nil, List.nil_append]
    <;> exact Parameter.map_unmarked_markHasMore _

theorem map_unmarked_requiredParams (sorted : Bool) (o : Operation) :
    (withParameters sorted request ps o).requiredParams.map Parameter.unmarked =
      ((withParameters sorted request ps o).allParams.filter (·.required)).map
        Parameter.unmarked := by
  have hgiven : (withParameters sorted request ps o).requiredParams.map Parameter.unmarked =
      ((givenBy request ps).filter (·.required)).map Parameter.unmarked :=
    Parameter.map_unmarked_markHasMore _
  have hselect := Parameter.map_unmarked_filter Parameter.required_unmarked
  rw [hgiven, hselect, hselect, map_unmarked_allParams, ← hselect, ← hselect]
  split
  · rw [Parameter.filter_required_requiredFirst]
  · rfl

/-- An operation that is given parameters lists them. -/
theorem classifies_withParameters (hrequest : request.Placed)
    (hpath : ∀ p ∈ ps, p.location = some .path → p.required = true) (sorted : Bool)
    (o : Operation) :
    (withParameters sorted request ps o).Classifies sorted (givenBy request ps) := by
  have hperm : ((withParameters sorted request ps o).allParams.map Parameter.unmarked).Perm
      ((givenBy request ps).map Parameter.unmarked) := perm_allParams_withParameters sorted o
  have hlist : ∀ location, ((withParameters sorted request ps o).listAt location).map
      Parameter.unmarked = ((givenBy request ps).filter (·.location = some location)).map
        Parameter.unmarked := map_unmarked_listAt hrequest sorted o
  refine ⟨hperm, hlist, mem_listAt_iff_of_perm hperm hlist, map_unmarked_requiredParams sorted o,
    fun p hp hl => ?_, fun hs => ?_, fun hs => ?_⟩
  · obtain ⟨g, hg, heq⟩ := exists_given_of_perm hperm hp
    have hgl : g.location = some .path := (Parameter.location_of_unmarked heq).trans hl
    rw [← p.required_unmarked, ← heq, g.required_unmarked]
    rcases List.mem_append.mp hg with hg | hg
    · rcases List.mem_append.mp hg with hg | hg
      · exact absurd (hgl.symm.trans (hrequest.formParams g hg)) (by simp)
      · exact absurd (hgl.symm.trans (hrequest.bodyParam g (Option.mem_toList.mp hg))) (by simp)
    · exact hpath g hg hgl
  · rw [map_unmarked_allParams, if_pos hs]
    rfl
  · rw [map_unmarked_allParams, hs]
    rfl

end WithParameters

theorem Classifies.of_lists {o made : Operation} {requiredFirst : Bool} {given : List Parameter}
    (h : o.Classifies requiredFirst given) (hlists : made.parameterLists = o.parameterLists) :
    made.Classifies requiredFirst given := by
  simp only [parameterLists, List.cons.injEq, and_true] at hlists
  obtain ⟨hall, hbody, hpath, hquery, hheader, hcookie, hform, hrequired⟩ := hlists
  have hlistAt : ∀ location, made.listAt location = o.listAt location := by
    intro location
    cases location <;> assumption
  refine ⟨?_, ?_, ?_, ?_, ?_, ?_, ?_⟩
  · rw [hall]
    exact h.perm
  · intro location
    rw [hlistAt]
    exact h.listAt location
  · simp only [hall, hlistAt]
    exact h.mem_listAt_iff
  · rw [hall, hrequired]
    exact h.requiredParams
  · rw [hall]
    exact h.required_of_path
  · rw [hall]
    exact h.sorted
  · rw [hall]
    exact h.unsorted

theorem required_of_path_declaredOf (hv : ∀ p, c.conventions.finishParameter p = p)
    (ofPath ofOperation : List (OrReference ParameterObject)) :
    ∀ p ∈ declaredOf c ofPath ofOperation, p.location = some .path → p.required = true := by
  intro p hp hl
  obtain ⟨d, -, rfl⟩ := List.mem_map.mp hp
  rw [(Parameter.ofDeclaration_placed hv d).2, hl, beq_self_eq_true, Bool.or_true]

end Operation

namespace DeclaredOperation

variable {c : Context} {models : ModelMap} {x : DeclaredOperation} {o : Operation}

/-- What the request body of an operation contributes. -/
def request (c : Context) (x : DeclaredOperation) : Request :=
  (Operation.requestOf c x.declared).value

/-- The declared parameters of an operation. -/
def declaredParameters (c : Context) (x : DeclaredOperation) : List Parameter :=
  Operation.declaredOf c x.pathParameters x.declared.parameters

/-- The parameters that an operation is given: those of its body, then the declared ones. -/
def given (c : Context) (x : DeclaredOperation) : List Parameter :=
  Operation.givenBy (x.request c) (x.declaredParameters c)

theorem eq_named_of_built (h : x.built c models = .ok o) :
    ∃ name, o =
      (Operation.named c models x.path x.method x.pathParameters x.declared name).value := by
  unfold built Operation.ofDeclaration at h
  rw [Noted.value_bind] at h
  split at h
  · exact absurd h (by simp)
  · next name _ => exact ⟨name, (Except.ok.inj h).symm⟩

theorem classifies_named (hv : ∀ p, c.conventions.finishParameter p = p) (models : ModelMap)
    (x : DeclaredOperation) (name : String) :
    (Operation.named c models x.path x.method x.pathParameters x.declared name).value.Classifies
      c.options.sortParamsByRequired (x.given c) := by
  obtain ⟨hlists, -, -⟩ :=
    Operation.withParameters_named c models x.path x.method x.pathParameters x.declared name
  rw [Operation.value_declaredParameters] at hlists
  exact (Operation.classifies_withParameters (Request.placed_requestOf hv _)
    (Operation.required_of_path_declaredOf hv _ _) _ _).of_lists hlists

/-- By conventions that leave finished parameters as they are, an operation lists what its body and
its declarations give it: nothing is lost, nothing is listed twice, and each parameter is at its
location only. -/
theorem classifies_of_built (hv : ∀ p, c.conventions.finishParameter p = p)
    (h : x.built c models = .ok o) :
    o.Classifies c.options.sortParamsByRequired (x.given c) := by
  obtain ⟨name, rfl⟩ := eq_named_of_built h
  exact classifies_named hv models x name

/-- An operation that posts a form. It declares a deep object, and a limit that its path declares
too. -/
def findPets : DeclaredOperation :=
  let text : Schema := .ofShape (.scalar .string)
  { path := "/pets/\x7bid\x7d"
    method := .post
    pathParameters := [
      .inline { name := "limit", location := "query", required := true, schema := some text },
      .inline { name := "id", location := "path", schema := some text }]
    declared :=
      { operationId := some "find"
        parameters := [
          .inline { name := "limit", location := "Query", schema := some text },
          .inline
            { name := "filter", location := "query", style := some "deepObject"
              schema := some (.ofShape (.object [("color", text), ("size", text)] ["size"])) }]
        requestBody := some (.inline
          { content := [(MediaType.formUrlEncoded,
              { schema := some (.ofShape (.object [("name", text)] ["name"])) })] }) } }

theorem classifies_findPets :
    ∃ o, findPets.built ⟨{ sortParamsByRequired := true }, .neutral false, {}⟩ [] = .ok o ∧
      o.Classifies true
        (findPets.given ⟨{ sortParamsByRequired := true }, .neutral false, {}⟩) ∧
      o.allParams.map (·.baseName) =
        ["name", "filter[size]", "id", "limit", "filter[color]"] := by
  have hnames : (findPets.built ⟨{ sortParamsByRequired := true }, .neutral false, {}⟩
      []).toOption.map (fun o => o.allParams.map (·.baseName)) =
        some ["name", "filter[size]", "id", "limit", "filter[color]"] := by decide +kernel
  obtain ⟨o, ho, hnames⟩ := Option.map_eq_some_iff.mp hnames
  exact ⟨o, eq_ok_of_toOption ho, classifies_of_built (fun _ => rfl) (eq_ok_of_toOption ho), hnames⟩

end DeclaredOperation

namespace Resolution

variable {o : Options} {v : Conventions} {d : Document} {r : Resolution}

/-- Every operation of a resolution lists what its declaration gives it. -/
theorem classifies_ofDocument (hv : ∀ p, v.finishParameter p = p)
    (h : ofDocument o v d = .ok r) :
    ∀ e ∈ r.operations, ∀ x ∈ e.2, ∃ y ∈ (context o v d).document.operations,
      x.place = y.place ∧ x.Classifies o.sortParamsByRequired (y.given (context o v d)) := by
  obtain ⟨os, hos, -, hrun⟩ := exists_run_ofDocument h
  intro e he x hx
  rw [hrun] at he
  obtain ⟨made, hmade, hx⟩ := Buckets.exists_mem_of_copy he hx
  obtain ⟨y, hy, hbuilt⟩ := (List.mapM_eq_ok_iff.mp hos).exists_of_mem_right
    (Buckets.mem_filings_iff.mp hmade).1
  obtain ⟨hplace, -, -⟩ := DeclaredOperation.of_built hbuilt
  obtain ⟨name, rfl⟩ := DeclaredOperation.eq_named_of_built hbuilt
  refine ⟨y, hy, ?_, ?_⟩
  · rw [hx]
    exact hplace
  · rw [hx]
    exact (DeclaredOperation.classifies_named (c := context o v d) hv r.models y name).of_lists rfl

end Resolution
end ApiResolution
