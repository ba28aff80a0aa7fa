import ApiResolution.Document.Reader
import ApiResolution.Proofs.Operation.Returns
import ApiResolution.Proofs.Operation.Classification
import ApiResolution.Proofs.Source

/-!
The response that an operation returns. Its code is selected from those of all declared responses:
the least one that starts with `2`, else the one that stands for all others (`Selected`). That
depends on which codes there are and not on their order (`selected?_eq_some_iff`). An operation
marks the response of the selected code, if its reference can be followed, and no other; all that it
says of what it returns follows from the marked one, so the order of the declared responses has no
effect on it (`selection_of_responses`). Only among responses whose codes are all different is there
one marked response at most, and the codes of what is read are
(`OperationObject.nodup_codes_of_read?`).
-/

namespace List

variable {α β : Type}

/-- Of lists that differ in order only, the same element is found if there is at most one. -/
theorem find?_eq_of_perm {p : α → Bool} {as bs : List α} (h : as.Perm bs)
    (hone : as.countP p ≤ 1) : as.find? p = bs.find? p := by
  have hfilter := h.filter p
  rw [countP_eq_length_filter] at hone
  rw [← head?_filter, ← head?_filter]
  match hkept : as.filter p, hone with
  | [], _ =>
    rw [hkept] at hfilter
    rw [hfilter.nil_eq]
  | [a], _ =>
    rw [hkept] at hfilter
    rw [hfilter.singleton_eq]

/-- What is given for some elements of a list stands beside those elements. -/
theorem forall₂_filterMap (f : α → Option β) (as : List α) :
    Forall₂ (fun a b => f a = some b) (as.filter fun a => (f a).isSome) (as.filterMap f) := by
  induction as with
  | nil => exact .nil
  | cons a as ih =>
    cases hf : f a with
    | none => simpa [filterMap_cons, hf] using ih
    | some b => simpa [filterMap_cons, hf] using ih

end List

namespace ApiResolution

/-- The responses of an operation that is read have codes of their own. -/
theorem OperationObject.nodup_codes_of_read? {source : Source} {d : OperationObject}
    (h : read? source = some d) : (Entries.keys d.responses).Nodup := by
  unfold read? at h
  simp only [Option.bind_eq_bind, Option.bind_eq_some_iff] at h
  obtain ⟨_, -, _, -, _, -, _, -, _, -, _, -, _, -, responses, hresponses, _, -, _, -, _, -, h⟩ := h
  obtain rfl := Option.some.inj h
  rcases Source.field?_eq_some hresponses with rfl | ⟨source, hread⟩
  · exact List.nodup_nil
  · exact Source.nodup_keys_entries? hread

/-! ## The selected code -/

namespace Response

variable {codes codes' : List String} {code other : String}

/-- A code is the least of those that start with `2`, or it stands for all others and none starts
with `2`. -/
structure Selected (codes : List String) (code : String) : Prop where
  mem : code ∈ codes
  best : (isSuccess code = true ∧ ∀ other ∈ codes, isSuccess other = true → code ≤ other) ∨
    (code = defaultCode ∧ ∀ other ∈ codes, isSuccess other = false)

theorem Selected.unique (h : Selected codes code) (h' : Selected codes other) : code = other := by
  rcases h.best with ⟨hcode, hleast⟩ | ⟨rfl, hnone⟩
  · rcases h'.best with ⟨hother, hleast'⟩ | ⟨-, hnone⟩
    · exact String.le_antisymm (hleast other h'.mem hother) (hleast' code h.mem hcode)
    · exact absurd hcode (by simp [hnone code h.mem])
  · rcases h'.best with ⟨hother, -⟩ | ⟨hother, -⟩
    · exact absurd hother (by simp [hnone other h'.mem])
    · exact hother.symm

theorem selected_congr (h : ∀ c, c ∈ codes ↔ c ∈ codes') :
    Selected codes code ↔ Selected codes' code := by
  constructor
  · rintro ⟨hmem, hbest⟩
    refine ⟨(h _).mp hmem, hbest.imp (And.imp_right ?_) (And.imp_right ?_)⟩
    · exact fun hleast c hc => hleast c ((h c).mpr hc)
    · exact fun hnone c hc => hnone c ((h c).mpr hc)
  · rintro ⟨hmem, hbest⟩
    refine ⟨(h _).mpr hmem, hbest.imp (And.imp_right ?_) (And.imp_right ?_)⟩
    · exact fun hleast c hc => hleast c ((h c).mp hc)
    · exact fun hnone c hc => hnone c ((h c).mp hc)

/-- Keeping the lesser of two codes finds the least one of all. -/
theorem foldl_lesser (best : String) (codes : List String) :
    ∃ least, codes.foldl lesser (some best) = some least ∧ least ∈ best :: codes ∧
      ∀ c ∈ best :: codes, least ≤ c := by
  induction codes generalizing best with
  | nil => exact ⟨best, rfl, List.mem_singleton_self _, by simp⟩
  | cons code codes ih =>
    rw [List.foldl_cons, lesser]
    split
    · next hless =>
      obtain ⟨least, hleast, hmem, hall⟩ := ih code
      refine ⟨least, hleast, List.mem_cons_of_mem _ hmem, List.forall_mem_cons.mpr ⟨?_, hall⟩⟩
      have hle : code ≤ best := (String.le_total code best).resolve_right fun h => h hless
      exact String.le_trans (hall code List.mem_cons_self) hle
    · next hless =>
      obtain ⟨least, hleast, hmem, hall⟩ := ih best
      rw [List.forall_mem_cons] at hall
      refine ⟨least, hleast, ?_, ?_⟩
      · rcases List.mem_cons.mp hmem with rfl | hmem
        · exact List.mem_cons_self
        · exact List.mem_cons_of_mem _ (List.mem_cons_of_mem _ hmem)
      · simp only [List.forall_mem_cons]
        exact ⟨hall.1, String.le_trans hall.1 (String.not_lt.mp hless), hall.2⟩

/-- The selected code, if there is one. -/
theorem selected_of_selected? (h : selected? codes = some code) : Selected codes code := by
  unfold selected? at h
  cases hsuccess : codes.filter isSuccess with
  | nil =>
    have hnone : ∀ c ∈ codes, isSuccess c = false := by
      simpa [List.filter_eq_nil_iff] using hsuccess
    rw [hsuccess, List.foldl_nil, Option.none_or] at h
    split at h
    · next hdefault =>
      obtain rfl := Option.some.inj h
      exact ⟨List.contains_iff_mem.mp hdefault, .inr ⟨rfl, hnone⟩⟩
    · exact absurd h (by simp)
  | cons best rest =>
    obtain ⟨least, hleast, hmem, hall⟩ := foldl_lesser best rest
    rw [hsuccess, List.foldl_cons, lesser, hleast, Option.some_or] at h
    obtain rfl := Option.some.inj h
    rw [← hsuccess] at hmem hall
    obtain ⟨hmem, hcode⟩ := List.mem_filter.mp hmem
    exact ⟨hmem, .inl ⟨hcode, fun c hc hsuccess => hall c (List.mem_filter.mpr ⟨hc, hsuccess⟩)⟩⟩

theorem isSome_selected?_of_selected (h : Selected codes code) :
    ∃ found, selected? codes = some found := by
  unfold selected?
  cases hsuccess : codes.filter isSuccess with
  | nil =>
    rcases h.best with ⟨hcode, -⟩ | ⟨rfl, -⟩
    · have hmem : code ∈ codes.filter isSuccess := List.mem_filter.mpr ⟨h.mem, hcode⟩
      rw [hsuccess] at hmem
      exact absurd hmem List.not_mem_nil
    · exact ⟨defaultCode, by simp [h.mem]⟩
  | cons best rest =>
    obtain ⟨least, hleast, -⟩ := foldl_lesser best rest
    exact ⟨least, by rw [List.foldl_cons, lesser, hleast, Option.some_or]⟩

/-- Selection finds the selected code and nothing else. -/
theorem selected?_eq_some_iff : selected? codes = some code ↔ Selected codes code := by
  refine ⟨selected_of_selected?, fun h => ?_⟩
  obtain ⟨found, hfound⟩ := isSome_selected?_of_selected h
  rw [hfound, (selected_of_selected? hfound).unique h]

/-- The order of codes has no effect on the selection. -/
theorem selected?_perm (h : codes.Perm codes') : selected? codes = selected? codes' := by
  refine Option.ext fun code => ?_
  rw [selected?_eq_some_iff, selected?_eq_some_iff]
  exact selected_congr fun _ => h.mem_iff

/-- A response shows the code that it is declared under, as `0` if it stands for all others, and it
is the default exactly if that code is the selected one. -/
structure Under (codes : List String) (code : String) (r : Response) : Prop where
  code_eq : r.code = if code = defaultCode then "0" else code
  isDefault_iff : r.isDefault = true ↔ Selected codes code

end Response
namespace Operation

variable {c : Context} {models : ModelMap} {path : String} {method : HttpMethod}
  {ofPath : List (OrReference ParameterObject)} {d : OperationObject} {name : String}

/-! ## The marked response -/

/-- The declared responses whose references can be followed. -/
def followed (c : Context) (d : OperationObject) : Entries (OrReference ResponseObject) :=
  d.responses.filter fun e => (c.response? e.2).value.isSome

/-- The code that an operation selects. -/
def selectedCode? (d : OperationObject) : Option String :=
  Response.selected? (Entries.keys d.responses)

theorem value_answersOf (c : Context) (d : OperationObject) : (answersOf c d).value =
    d.responses.filterMap fun e => (answerOf c (selectedCode? d) e.1 e.2).value := by
  simp only [answersOf, Noted.filterMapList, Noted.value_bind, Noted.value_pure,
    Noted.value_mapList, List.filterMap_map]
  rfl

theorem code_ofDeclaration (c : Context) (code : String) (d : ResponseObject) :
    (Response.ofDeclaration c code d).value.value.code =
      if code = Response.defaultCode then "0" else code := by
  unfold Response.ofDeclaration
  simp only [Noted.value_bind]
  split <;> rfl

theorem isSome_answerOf (c : Context) (selected : Option String) (code : String)
    (part : OrReference ResponseObject) :
    (answerOf c selected code part).value.isSome = (c.response? part).value.isSome := by
  unfold answerOf
  simp only [Noted.value_bind]
  cases (c.response? part).value <;> rfl

theorem beq_selectedCode?_iff {code : String} :
    (some code == selectedCode? d) = true ↔ Response.Selected (Entries.keys d.responses) code := by
  rw [beq_iff_eq, eq_comm, selectedCode?, Response.selected?_eq_some_iff]

theorem under_of_answerOf {code : String} {part : OrReference ResponseObject} {answer : Answer}
    (h : (answerOf c (selectedCode? d) code part).value = some answer) :
    answer.response.value.Under (Entries.keys d.responses) code := by
  unfold answerOf at h
  simp only [Noted.value_bind] at h
  split at h
  · exact absurd h (by simp)
  · simp only [Noted.value_bind, Noted.value_pure, Option.some.injEq] at h
    obtain rfl := h
    exact ⟨code_ofDeclaration .., beq_selectedCode?_iff⟩

/-- The answers stand beside the responses whose references can be followed. -/
theorem forall₂_answersOf (c : Context) (d : OperationObject) :
    List.Forall₂ (fun e answer => answer.response.value.Under (Entries.keys d.responses) e.1)
      (followed c d) (answersOf c d).value := by
  have hfollowed : followed c d = d.responses.filter fun e =>
      (answerOf c (selectedCode? d) e.1 e.2).value.isSome :=
    List.filter_congr fun e _ => (isSome_answerOf c (selectedCode? d) e.1 e.2).symm
  rw [hfollowed, value_answersOf]
  exact (List.forall₂_filterMap (fun e : String × OrReference ResponseObject =>
    (answerOf c (selectedCode? d) e.1 e.2).value) _).imp fun e answer h => under_of_answerOf h

/-- Where no code is declared twice, at most one answer is the default. -/
theorem countP_answersOf_le (hkeys : (Entries.keys d.responses).Nodup) :
    (answersOf c d).value.countP (·.response.value.isDefault) ≤ 1 := by
  -- A marked answer has a declaration under the selected code beside it, and that is declared once.
  have hcount : (answersOf c d).value.countP (·.response.value.isDefault) ≤
      (followed c d).countP fun e => some e.1 == selectedCode? d := by
    refine (forall₂_answersOf c d).flip.countP_le fun answer e _ hanswer hdefault => ?_
    exact beq_selectedCode?_iff.mpr (hanswer.isDefault_iff.mp hdefault)
  have hselected : (followed c d).countP (fun e => some e.1 == selectedCode? d) ≤
      d.responses.countP fun e => some e.1 == selectedCode? d :=
    List.filter_sublist.countP_le
  have hone : d.responses.countP (fun e => some e.1 == selectedCode? d) =
      ((Entries.keys d.responses).map some).count (selectedCode? d) := by
    rw [List.count, Entries.keys, List.map_map, List.countP_map]
    rfl
  have hnodup : ((Entries.keys d.responses).map some).Nodup :=
    hkeys.map (Option.some_injective _)
  calc (answersOf c d).value.countP (·.response.value.isDefault)
      ≤ ((Entries.keys d.responses).map some).count (selectedCode? d) :=
        hone ▸ hcount.trans hselected
    _ ≤ 1 := List.nodup_iff_count_le_one.mp hnodup _

/-- The responses of an operation that are marked as its default: only that of the selected code,
and none where its reference cannot be followed. -/
structure MarksSelected (c : Context) (d : OperationObject) (o : Operation) : Prop where
  marked : List.Forall₂ (fun e r => r.Under (Entries.keys d.responses) e.1)
    (followed c d) o.responses
  atMostOne : o.responses.countP (·.isDefault) ≤ 1
  none_iff : o.defaultResponse? = none ↔
    ∀ e ∈ followed c d, ¬ Response.Selected (Entries.keys d.responses) e.1

theorem forall₂_responses_named (c : Context) (models : ModelMap) (path : String)
    (method : HttpMethod) (ofPath : List (OrReference ParameterObject)) (d : OperationObject)
    (name : String) :
    List.Forall₂ (fun e r => r.Under (Entries.keys d.responses) e.1)
      (followed c d) (named c models path method ofPath d name).value.responses := by
  have hanswers : List.Forall₂ (fun e (r : Response) => r.Under (Entries.keys d.responses) e.1)
      (followed c d) (((answersOf c d).value.map (·.response.value)).map Response.unmarked) := by
    rw [List.map_map]
    exact List.forall₂_map_right_iff.mpr ((forall₂_answersOf c d).imp fun _ _ h =>
      ⟨h.code_eq, h.isDefault_iff⟩)
  rw [← Response.map_unmarked_markHasMore, ← responses_named] at hanswers
  exact (List.forall₂_map_right_iff.mp hanswers).imp fun _ _ h => ⟨h.code_eq, h.isDefault_iff⟩

theorem countP_isDefault_markHasMore (rs : List Response) :
    (Response.markHasMore rs).countP (·.isDefault) = rs.countP (·.isDefault) := by
  have hmap : ∀ qs : List Response,
      (qs.map Response.unmarked).countP (·.isDefault) = qs.countP (·.isDefault) :=
    fun qs => List.countP_map
  rw [← hmap, ← hmap rs, Response.map_unmarked_markHasMore]

theorem marksSelected_named (models : ModelMap) (path : String) (method : HttpMethod)
    (ofPath : List (OrReference ParameterObject)) (name : String)
    (hkeys : (Entries.keys d.responses).Nodup) :
    (named c models path method ofPath d name).value.MarksSelected c d := by
  have hmarked := forall₂_responses_named c models path method ofPath d name
  refine ⟨hmarked, ?_, ?_⟩
  · rw [responses_named, countP_isDefault_markHasMore, List.countP_map]
    exact countP_answersOf_le hkeys
  · rw [defaultResponse?, List.find?_eq_none]
    constructor
    · intro hnone e he hselected
      obtain ⟨r, hr, hunder⟩ := hmarked.exists_of_mem_left he
      exact hnone r hr (hunder.isDefault_iff.mpr hselected)
    · intro hnone r hr hdefault
      obtain ⟨e, he, hunder⟩ := hmarked.exists_of_mem_right hr
      exact hnone e he (hunder.isDefault_iff.mp hdefault)

/-! ## The order of the declared responses -/

variable {rs : Entries (OrReference ResponseObject)}

theorem answersOf_perm (c : Context) (h : rs.Perm d.responses) :
    (answersOf c { d with responses := rs }).value.Perm (answersOf c d).value := by
  have hselected : selectedCode? { d with responses := rs } = selectedCode? d :=
    Response.selected?_perm (h.map _)
  rw [value_answersOf, value_answersOf, hselected]
  exact h.filterMap _

theorem returnedAnswer?_perm (c : Context) (hkeys : (Entries.keys d.responses).Nodup)
    (h : rs.Perm d.responses) :
    returnedAnswer? c { d with responses := rs } = returnedAnswer? c d := by
  have hperm := answersOf_perm c h
  refine List.find?_eq_of_perm hperm ?_
  rw [hperm.countP_eq]
  exact countP_answersOf_le hkeys

/-- The responses of an operation have no part in its lists of parameters. -/
theorem parameterLists_named_withResponses (c : Context) (models : ModelMap) (path : String)
    (method : HttpMethod) (ofPath : List (OrReference ParameterObject)) (d : OperationObject)
    (rs : Entries (OrReference ResponseObject)) (name : String) :
    (named c models path method ofPath { d with responses := rs } name).value.parameterLists =
      (named c models path method ofPath d name).value.parameterLists := by
  have hlists : ∀ (request : Request) (ps : List Parameter) (o o' : Operation),
      (withParameters c.options.sortParamsByRequired request ps o).parameterLists =
        (withParameters c.options.sortParamsByRequired request ps o').parameterLists :=
    fun _ _ _ _ => rfl
  have hrequest : requestOf c { d with responses := rs } = requestOf c d := rfl
  obtain ⟨hmade, -⟩ := withParameters_named c models path method ofPath d name
  obtain ⟨hmade', -⟩ :=
    withParameters_named c models path method ofPath { d with responses := rs } name
  rw [hmade', hmade, hrequest]
  exact hlists _ _ _ _

/-- What an operation returns has nothing to do with the order of its responses. -/
theorem returned_named_perm (c : Context) (models : ModelMap) (path : String) (method : HttpMethod)
    (ofPath : List (OrReference ParameterObject)) (name : String)
    (hkeys : (Entries.keys d.responses).Nodup) (h : rs.Perm d.responses) :
    (named c models path method ofPath { d with responses := rs } name).value.returned =
      (named c models path method ofPath d name).value.returned := by
  have hparams :
      (named c models path method ofPath { d with responses := rs } name).value.allParams =
        (named c models path method ofPath d name).value.allParams :=
    List.head_eq_of_cons_eq
      (parameterLists_named_withResponses c models path method ofPath d rs name)
  rw [returned_named, returned_named, returnedAnswer?_perm c hkeys h, hparams]

end Operation
namespace DeclaredOperation

/-- The operation with other responses. -/
def withResponses (x : DeclaredOperation) (rs : Entries (OrReference ResponseObject)) :
    DeclaredOperation :=
  { x with declared := { x.declared with responses := rs } }

theorem built_eq (c : Context) (models : ModelMap) (x : DeclaredOperation) :
    x.built c models = (Operation.nameOf c x.path x.method x.declared).value.map fun name =>
      (Operation.named c models x.path x.method x.pathParameters x.declared name).value := by
  unfold built Operation.ofDeclaration
  rw [Noted.value_bind]
  cases (Operation.nameOf c x.path x.method x.declared).value <;> rfl

/-- The responses have no part in the name of an operation. -/
theorem built_withResponses (c : Context) (models : ModelMap) (x : DeclaredOperation)
    (rs : Entries (OrReference ResponseObject)) :
    (x.withResponses rs).built c models =
      (Operation.nameOf c x.path x.method x.declared).value.map fun name =>
        (Operation.named c models x.path x.method x.pathParameters
          { x.declared with responses := rs } name).value :=
  built_eq c models (x.withResponses rs)

/-- An operation whose responses have codes of their own marks the response of the selected code, if
its reference can be followed, and no other one: that of the least code that starts with `2`, or,
where there is none, the one that stands for all others. Whatever the order of the responses is, the
operation fails alike or says the same of what it returns. -/
theorem selection_of_responses (c : Context) (models : ModelMap) (x : DeclaredOperation)
    (hkeys : (Entries.keys x.declared.responses).Nodup) :
    (∀ o, x.built c models = .ok o → o.MarksSelected c x.declared) ∧
      ∀ rs, rs.Perm x.declared.responses →
        Agree (fun o o' : Operation => o.returned = o'.returned)
          (x.built c models) ((x.withResponses rs).built c models) := by
  constructor
  · intro o ho
    obtain ⟨name, rfl⟩ := eq_named_of_built ho
    exact Operation.marksSelected_named models x.path x.method x.pathParameters name hkeys
  · intro rs hrs
    rw [built_eq, built_withResponses]
    cases (Operation.nameOf c x.path x.method x.declared).value with
    | error failure => exact .error failure
    | ok name => exact .ok (Operation.returned_named_perm c models x.path x.method x.pathParameters
        name hkeys hrs).symm

/-- An operation that may answer in four ways. -/
def countPets : DeclaredOperation :=
  let body (type : ScalarType) : OrReference ResponseObject :=
    .inline { content := [("application/json", { schema := some (.ofShape (.scalar type)) })] }
  { path := "/pets"
    method := .get
    pathParameters := []
    declared :=
      { operationId := some "count"
        responses := [("default", body .string), ("202", body .boolean), ("200", body .integer),
          ("404", .reference "#/components/responses/Missing")] } }

theorem selection_of_countPets :
    (Entries.keys countPets.declared.responses).Nodup ∧
      countPets.declared.responses.reverse.Perm countPets.declared.responses ∧
      ∃ o o', countPets.built ⟨{}, .neutral false, {}⟩ [] = .ok o ∧
        (countPets.withResponses countPets.declared.responses.reverse).built
          ⟨{}, .neutral false, {}⟩ [] = .ok o' ∧
        o.MarksSelected ⟨{}, .neutral false, {}⟩ countPets.declared ∧ o.returned = o'.returned ∧
        o.responses.map (fun r => (r.code, r.isDefault)) =
          [("0", false), ("202", false), ("200", true)] ∧
        o.returnType = some "integer" := by
  have hkeys : (Entries.keys countPets.declared.responses).Nodup := by decide
  have hperm := List.reverse_perm countPets.declared.responses
  have hrun : (countPets.built ⟨{}, .neutral false, {}⟩ []).toOption.map (fun o =>
      (o.responses.map fun r => (r.code, r.isDefault), o.returnType)) =
        some ([("0", false), ("202", false), ("200", true)], some "integer") := by decide +kernel
  obtain ⟨o, ho, hrun⟩ := Option.map_eq_some_iff.mp hrun
  replace ho := eq_ok_of_toOption ho
  obtain ⟨hmarks, hreturned⟩ := selection_of_responses ⟨{}, .neutral false, {}⟩ [] countPets hkeys
  have hagree := hreturned _ hperm
  obtain ⟨o', ho'⟩ := hagree.ok_iff.mp ⟨o, ho⟩
  rw [ho, ho'] at hagree
  cases hagree with
  | ok hsame =>
    exact ⟨hkeys, hperm, o, o', ho, ho', hmarks o ho, hsame, congrArg Prod.fst hrun,
      congrArg Prod.snd hrun⟩

end DeclaredOperation
end ApiResolution
