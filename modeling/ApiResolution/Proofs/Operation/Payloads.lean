import ApiResolution.Operation.Buckets
import ApiResolution.Proofs.Diagnostic
import ApiResolution.Proofs.Marks
import ApiResolution.Proofs.Operation.Filing
import ApiResolution.Proofs.Property.Settled

/-!
Where the payloads of responses come from. A response is `Grounded` when its payload is settled as
the property of a schema that stands in the document, and what that property noted is among the
notes. Every response of every operation in the buckets of a document is (`grounded_ofDocument`):
one operation gives grounded responses, and filing operations changes only their names.
-/

namespace ApiResolution

/-- The payload, if there is one, is settled as the property of a schema that stands in the
document, and what was noted for that property is among the notes. -/
def Response.Grounded (c : Context) (notes : List Note) (r : Response) : Prop :=
  ∀ p, r.schema = some p → ∃ s, c.document.Occurs s ∧
    p.settled = (Property.ofSchema c "response" s).value.settled ∧
    (Property.ofSchema c "response" s).notes ⊆ notes

namespace Context

/-- What is found at the end of references among components is the part itself or a component. -/
theorem inline?_of_componentFrom? {α : Type} {c : Context} {sectionName : String}
    {components : Entries (OrReference α)} {hops : Nat} {part : OrReference α} {a : α}
    (h : (c.componentFrom? sectionName components hops part).value = some a) :
    part.inline? = some a ∨ ∃ e ∈ components, e.2.inline? = some a := by
  induction hops generalizing part with
  | zero => exact absurd h (by simp [componentFrom?])
  | succ hops ih =>
    cases part with
    | inline value => exact .inl h
    | reference target =>
      rw [componentFrom?] at h
      split at h
      · next next hnext =>
        obtain ⟨name, -, hl⟩ := Option.bind_eq_some_iff.mp hnext
        rcases ih h with h | h
        · exact .inr ⟨(name, next), Entries.mem_of_lookup? hl, h⟩
        · exact .inr h
      · exact absurd h (by simp)

end Context

namespace Response

variable {c : Context} {notes : List Note}

/-- The payload of a declared response stands in one of its media types. -/
theorem exists_of_payload? {d : ResponseObject} {contentType : String} {s : Schema}
    (h : payload? d = some (contentType, s)) : ∃ i, d.schemaAt? (.media i) = some s := by
  unfold payload? at h
  obtain ⟨e, he, hs⟩ := List.exists_of_findSome?_eq_some h
  obtain ⟨s', hs', heq⟩ := Option.map_eq_some_iff.mp hs
  obtain rfl : s' = s := congrArg Prod.snd heq
  obtain ⟨i, hi⟩ := List.mem_iff_getElem?.mp he
  exact ⟨i, by rw [ResponseObject.schemaAt?, mediaSchema?, hi, Option.bind_some, hs']⟩

theorem grounded_ofDeclaration {code : String} {d : ResponseObject}
    (hd : ∀ i s, d.schemaAt? (.media i) = some s → c.document.Occurs s)
    (hn : (ofDeclaration c code d).notes ⊆ notes) :
    (ofDeclaration c code d).value.value.Grounded c notes := by
  intro p hp
  unfold ofDeclaration at hp hn
  simp only [Noted.value_bind, Noted.notes_bind] at hp hn
  split at hp
  · exact absurd hp (by simp [declared])
  · next contentType s hs =>
    rw [hs] at hn
    simp only [Noted.value_bind, Noted.notes_bind, Noted.value_pure] at hp hn
    obtain rfl := Option.some.inj hp
    obtain ⟨i, hi⟩ := exists_of_payload? hs
    refine ⟨s, hd i s hi, Property.settled_nameIfEnum _ _, fun n hmem => hn ?_⟩
    exact List.mem_append_right _ (List.mem_append_left _ hmem)

theorem grounded_markHasMore {rs : List Response} (h : ∀ r ∈ rs, r.Grounded c notes) :
    ∀ r ∈ markHasMore rs, r.Grounded c notes := by
  rw [markHasMore_eq]
  refine forall_mem_setMarks ?_ h
  exact fun _ _ hr => hr

end Response

namespace Operation

variable {c : Context} {notes : List Note}

/-- The responses of an operation that stands in the document are grounded. -/
theorem grounded_answerOf {selected : Option String} {code : String}
    {part : OrReference ResponseObject} {answer : Answer}
    (hpart : ∀ d, part.inline? = some d → ∀ i s, d.schemaAt? (.media i) = some s →
      c.document.Occurs s)
    (h : (answerOf c selected code part).value = some answer)
    (hn : (answerOf c selected code part).notes ⊆ notes) :
    answer.response.value.Grounded c notes := by
  unfold answerOf at h hn
  simp only [Noted.value_bind, Noted.notes_bind] at h hn
  split at h
  · exact absurd h (by simp)
  · next d hd =>
    rw [hd] at hn
    simp only [Noted.value_bind, Noted.notes_bind, Noted.value_pure] at h hn
    obtain rfl := Option.some.inj h
    refine Response.grounded_ofDeclaration ?_ fun n hmem => hn ?_
    · rcases Context.inline?_of_componentFrom? hd with hinline | ⟨e, he, hinline⟩
      · exact hpart d hinline
      · obtain ⟨j, hj⟩ := List.mem_iff_getElem?.mp he
        intro i s hs
        refine Document.occurs_of_root (.response j (.media i)) ?_
        rw [Document.rootSchema?, hj, Option.bind_some, hinline, Option.bind_some, hs]
    · exact List.mem_append_right _ (List.mem_append_left _ hmem)

theorem responses_named (c : Context) (models : ModelMap) (path : String) (method : HttpMethod)
    (ofPath : List (OrReference ParameterObject)) (d : OperationObject) (name : String) :
    (named c models path method ofPath d name).value.responses =
      Response.markHasMore ((answersOf c d).value.map (·.response.value)) := by
  have hanswers : ∀ (answers : List Answer) (o : Operation),
      (withAnswers c models answers o).responses =
        Response.markHasMore (answers.map (·.response.value)) := by
    intro answers o
    unfold withAnswers
    dsimp only
    split <;> rfl
  simp only [named, Noted.value_bind, Noted.value_pure, withParameters, hanswers]

theorem notes_subset_named (c : Context) (models : ModelMap) (path : String) (method : HttpMethod)
    (ofPath : List (OrReference ParameterObject)) (d : OperationObject) (name : String) :
    (answersOf c d).notes ⊆ (named c models path method ofPath d name).notes := by
  simp only [named, Noted.notes_bind]
  exact fun n hn => List.mem_append_right _ (List.mem_append_right _ (List.mem_append_left _ hn))

/-- The responses of an operation that is written in the document are grounded. -/
theorem grounded_ofDeclaration {models : ModelMap} {d : DeclaredOperation}
    (hd : d ∈ c.document.operations) {o : Operation}
    (h : (ofDeclaration c models d.path d.method d.pathParameters d.declared).value = .ok o)
    (hn : (ofDeclaration c models d.path d.method d.pathParameters d.declared).notes ⊆ notes) :
    ∀ r ∈ o.responses, r.Grounded c notes := by
  unfold ofDeclaration at h hn
  simp only [Noted.value_bind, Noted.notes_bind] at h hn
  split at h
  · exact absurd h (by simp)
  · next name hname =>
    rw [hname] at hn
    simp only [Noted.value_bind, Noted.notes_bind, Noted.value_pure] at h hn
    obtain rfl := Except.ok.inj h
    rw [responses_named]
    refine Response.grounded_markHasMore fun r hr => ?_
    obtain ⟨answer, ha, rfl⟩ := List.mem_map.mp hr
    obtain ⟨⟨code, part⟩, he, hv, hsub⟩ := Noted.exists_of_mem_filterMapList ha
    refine grounded_answerOf ?_ hv fun n hmem => hn ?_
    · obtain ⟨⟨path, item⟩, hitem, hmethod⟩ := List.mem_flatMap.mp hd
      obtain ⟨method, -, hop⟩ := List.mem_filterMap.mp hmethod
      obtain ⟨declared, hdeclared, rfl⟩ := Option.map_eq_some_iff.mp hop
      obtain ⟨i, hi⟩ := List.mem_iff_getElem?.mp hitem
      obtain ⟨j, hj⟩ := List.mem_iff_getElem?.mp he
      intro found hfound k s hs
      refine Document.occurs_of_root (.path i (.operation method (.response j (.media k)))) ?_
      rw [Document.rootSchema?, hi, Option.bind_some, PathItem.schemaAt?, hdeclared,
        Option.bind_some, OperationObject.schemaAt?, hj, Option.bind_some, hfound,
        Option.bind_some, hs]
    · exact List.mem_append_right _ (List.mem_append_left _ (notes_subset_named _ _ _ _ _ _ _
        (hsub hmem)))

end Operation

namespace Buckets

variable {c : Context} {notes : List Note}

/-- All responses in the buckets are grounded. -/
def Grounded (c : Context) (notes : List Note) (buckets : Buckets) : Prop :=
  ∀ e ∈ buckets, ∀ o ∈ e.2, ∀ r ∈ o.responses, r.Grounded c notes

theorem Grounded.add {buckets : Buckets} (h : Grounded c notes buckets) {o : Operation}
    (ho : ∀ r ∈ o.responses, r.Grounded c notes) (bucket : String) :
    Grounded c notes (add buckets bucket o).value := by
  rw [value_add]
  intro e he
  rcases Entries.mem_insert he with rfl | he
  · intro o' ho'
    rcases List.mem_append.mp ho' with ho' | ho'
    · exact h _ (mem_of_mem_filed ho') o' ho'
    · rw [List.mem_singleton.mp ho']
      exact ho
  · exact h e he

theorem Grounded.addToAll {buckets : Buckets} (h : Grounded c notes buckets) {o : Operation}
    (ho : ∀ r ∈ o.responses, r.Grounded c notes) (names : List String) :
    Grounded c notes (addToAll o names buckets).value := by
  induction names generalizing buckets with
  | nil => exact h
  | cons name names ih =>
    simp only [Buckets.addToAll, Noted.value_bind]
    exact ih (h.add ho name)

theorem Grounded.addDeclared {models : ModelMap} {ds : List DeclaredOperation} {buckets : Buckets}
    (h : Grounded c notes buckets) (hds : ∀ d ∈ ds, d ∈ c.document.operations)
    {after : Buckets} (ha : (addDeclared c models ds buckets).value = .ok after)
    (hn : (addDeclared c models ds buckets).notes ⊆ notes) : Grounded c notes after := by
  induction ds generalizing buckets with
  | nil =>
    obtain rfl := Except.ok.inj ha
    exact h
  | cons d ds ih =>
    rw [Buckets.addDeclared] at ha hn
    simp only [Noted.value_bind, Noted.notes_bind] at ha hn
    split at ha
    · exact absurd ha (by simp)
    · next o ho =>
      rw [ho] at hn
      simp only [Noted.value_bind, Noted.notes_bind] at ha hn
      have hresponses := Operation.grounded_ofDeclaration (hds d List.mem_cons_self) ho
        fun n hmem => hn (List.mem_append_left _ hmem)
      refine ih (h.addToAll hresponses _) (fun d hd => hds d (List.mem_cons_of_mem _ hd)) ha ?_
      exact fun n hmem => hn (List.mem_append_right _ (List.mem_append_right _ hmem))

/-- Every response of a document is grounded. -/
theorem grounded_ofDocument {models : ModelMap} {buckets : Buckets}
    (h : (ofDocument c models).value = .ok buckets)
    (hn : (ofDocument c models).notes ⊆ notes) : Grounded c notes buckets := by
  have hempty : Grounded c notes [] := by simp [Grounded]
  exact hempty.addDeclared (fun _ hd => hd) h hn

end Buckets
end ApiResolution
