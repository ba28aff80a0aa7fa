import ApiResolution.Proofs.Components
import ApiResolution.Proofs.Diagnostic
import ApiResolution.Proofs.Operation.Filing
import ApiResolution.Proofs.Property.Types

/-!
What is noted of components. Only following a part to a component notes anything of components
(`reports_component?`); all else that is noted is of schemas or of another kind. An operation
follows the parts that it uses: its parameters and those of its path, its request body, its
responses and their headers (`mem_reports_of_built`).
-/

namespace ApiResolution

/-! ## Reports -/

namespace ComponentSection

theorem missing_ne_unnamed (s : ComponentSection) (target other : String) :
    s.missing target ≠ .unnamed other := by
  intro h
  have hfirst := congrArg (fun d => d.message.toList.head?) h
  simp [missing, Diagnostic.unnamed] at hfirst

theorem missing_ne_undefined (s : ComponentSection) (target name other : String) :
    s.missing target ≠ .undefined name other := by
  intro h
  have hfirst := congrArg (fun d => d.message.toList.head?) h
  simp [missing, Diagnostic.undefined] at hfirst

end ComponentSection

/-- The note is of a reference to a component that is not resolved: of an unresolved reference, and
of none to a schema. -/
def Note.ofComponent : Note → Bool
  | .undefinedSchema _ _ => false
  | .diagnostic d => d.kind == .unresolvedReference && d != .unnamed d.location

namespace Noted

variable {α β : Type}

/-- What is noted of components. -/
def reports (x : Noted α) : List Note := x.notes.filter Note.ofComponent

@[simp] theorem reports_pure (a : α) : (pure a : Noted α).reports = [] := rfl

@[simp] theorem reports_bind (x : Noted α) (f : α → Noted β) :
    (x >>= f).reports = x.reports ++ (f x.value).reports := List.filter_append ..

@[simp] theorem reports_map (f : α → β) (x : Noted α) : (f <$> x).reports = x.reports := by
  rw [reports, notes_map, reports]

@[simp] theorem reports_mapList (f : α → Noted β) (as : List α) :
    (mapList f as).reports = as.flatMap fun a => (f a).reports := by
  rw [reports, notes_mapList, List.filter_flatMap]
  rfl

@[simp] theorem reports_filterMapList (f : α → Noted (Option β)) (as : List α) :
    (filterMapList f as).reports = as.flatMap fun a => (f a).reports := by
  rw [filterMapList, reports_bind, reports_mapList, reports_pure, List.append_nil]

@[simp] theorem reports_reportUndefined (name target : String) :
    (reportUndefined name target).reports = [] := rfl

/-- Only an unresolved reference may be of a component. -/
@[simp] theorem reports_diagnose {kind : DiagnosticKind} (h : kind ≠ .unresolvedReference)
    (location message : String) : (diagnose kind location message).reports = [] := by
  simp [reports, diagnose, Note.ofComponent, h]

end Noted

/-! ## What reports nothing of components -/

section Silent

variable (c : Context)

@[simp] theorem Context.reports_typeTag (s : Schema) : (c.typeTag s).reports = [] := by
  unfold typeTag
  dsimp only
  split
  · split <;> simp
  · simp [Noted.reports, Noted.diagnose, Note.ofComponent, Diagnostic.unnamed]
  · rfl

namespace Property

@[simp] theorem reports_leafAt (depth : Nat) (name : String) (s : Schema) :
    (leafAt c depth name s).reports = [] := by
  unfold leafAt
  split
  · simp [cutOff]
  · simp [leaf, start]

theorem reports_ofSchemaAt (depth : Nat) (name : String) (s : Schema) :
    (ofSchemaAt c depth name s).reports = [] := by
  fun_induction ofSchemaAt c depth name s <;> simp_all [cutOff, start]

@[simp] theorem reports_ofSchema (name : String) (s : Schema) :
    (ofSchema c name s).reports = [] := reports_ofSchemaAt c 0 name s

end Property

namespace Parameter

@[simp] theorem reports_ofDeclaration (d : ParameterObject) : (ofDeclaration c d).reports = [] := by
  unfold ofDeclaration
  split <;> simp [ofSchema]

@[simp] theorem reports_ofForm (contentType : String) (schema : Option Schema) :
    (ofForm c contentType schema).reports = [] := by
  unfold ofForm
  split <;> simp

@[simp] theorem reports_ofBody (body : RequestBodyObject) (contentType : String)
    (media : MediaTypeObject) : (ofBody c body contentType media).reports = [] := by
  unfold ofBody
  dsimp only
  split <;> simp

end Parameter

namespace Request

@[simp] theorem reports_addMedia (body : RequestBodyObject) (r : Request) (contentType : String)
    (media : MediaTypeObject) : (r.addMedia c body contentType media).reports = [] := by
  unfold addMedia
  dsimp only
  split
  · simp
  · split <;> simp

@[simp] theorem reports_addAll (body : RequestBodyObject) (media : List (String × MediaTypeObject))
    (r : Request) : (addAll c body media r).reports = [] := by
  induction media generalizing r with
  | nil => rfl
  | cons e media ih => rw [addAll, Noted.reports_bind, reports_addMedia, ih, List.append_nil]

@[simp] theorem reports_ofBody (body : RequestBodyObject) : (ofBody c body).reports = [] :=
  reports_addAll c body _ _

end Request

namespace Response

@[simp] theorem reports_ofHeader (name : String) (d : HeaderObject) :
    (ofHeader c name d).reports = [] := by
  unfold ofHeader
  cases d.schema <;> simp

end Response

namespace Model

@[simp] theorem reports_members (model : String) (ms : Members) :
    (members c model ms).reports = [] := by
  simp [members, member]

@[simp] theorem reports_withBranches (allOf oneOf : List Schema) (s : Schema) (m : Model) :
    (withBranches c allOf oneOf s m).reports = [] := by
  unfold withBranches
  simp only [Noted.reports_bind]
  split <;> simp

@[simp] theorem reports_withType (s : Schema) (m : Model) : (withType c s m).reports = [] := by
  unfold withType
  simp only [Noted.reports_bind]
  split <;> simp

@[simp] theorem reports_ofSchema (name : String) (s : Schema) :
    (ofSchema c name s).reports = [] := by
  unfold ofSchema described
  split <;> simp [withContainer]

end Model

namespace ModelMap

@[simp] theorem reports_noteConflict (name : String) (m ancestor : Model) :
    (noteConflict name m ancestor).reports = [] := by
  unfold noteConflict
  split
  · split <;> simp
  · rfl

@[simp] theorem reports_ofDocument : (ofDocument c).reports = [] := by
  unfold ofDocument
  simp only [Noted.reports_bind]
  split <;> simp [ofSchemas, link]

end ModelMap

namespace SecurityScheme

@[simp] theorem reports_ofDeclarations (ds : List (String × SecuritySchemeObject)) :
    (ofDeclarations ds).reports = [] := by
  induction ds with
  | nil => rfl
  | cons e ds ih =>
    rw [ofDeclarations]
    cases ofDeclaration e.1 e.2 with
    | error failure => rfl
    | ok scheme =>
      dsimp only
      split
      · simp only [Noted.reports_bind, ih]
        split <;> simp
      · simp only [Noted.reports_bind, ih]
        split <;> simp

@[simp] theorem reports_ofDocument (d : Document) : (ofDocument d).reports = [] := by
  unfold ofDocument
  dsimp only
  simp only [Noted.reports_bind, reports_ofDeclarations]
  split <;> simp

end SecurityScheme

theorem Resolution.reports_distinctNames (o : Options) (d : Document) :
    (distinctNames o d).reports = [] := by
  unfold distinctNames
  split <;> simp

end Silent

/-! ## What reports components -/

/-- The parts of a section that an operation uses. The headers are those of the responses to which
the parts of the operation lead. -/
inductive DeclaredOperation.Uses (c : Context) (x : DeclaredOperation) :
    (s : ComponentSection) → OrReference s.Object → Prop
  | parameter {part : OrReference ParameterObject} (h : part ∈ x.declared.parameters) :
      Uses c x .parameters part
  | sharedParameter {part : OrReference ParameterObject} (h : part ∈ x.pathParameters) :
      Uses c x .parameters part
  | requestBody {part : OrReference RequestBodyObject} (h : x.declared.requestBody = some part) :
      Uses c x .requestBodies part
  | response {code : String} {part : OrReference ResponseObject}
      (h : (code, part) ∈ x.declared.responses) : Uses c x .responses part
  | header {code name : String} {answer : OrReference ResponseObject} {response : ResponseObject}
      {part : OrReference HeaderObject} (h : (code, answer) ∈ x.declared.responses)
      (hanswer : (c.response? answer).value = some response)
      (hheader : (name, part) ∈ response.headers) : Uses c x .headers part

namespace Context

variable {c : Context} {s : ComponentSection} {part : OrReference s.Object}

/-- Following a part notes nothing else than a missing component. -/
theorem reports_component? (part : OrReference s.Object) :
    (c.component? s part).reports = (c.component? s part).notes := by
  refine List.filter_eq_self.mpr fun note hnote => ?_
  obtain ⟨-, -, target, -, rfl⟩ := mem_notes_component?_iff.mp hnote
  exact Bool.and_eq_true_iff.mpr ⟨rfl, bne_iff_ne.mpr (s.missing_ne_unnamed target target)⟩

end Context

namespace Response

variable (c : Context)

theorem reports_ofHeaders (headers : Entries (OrReference HeaderObject)) :
    (ofHeaders c headers).reports = headers.flatMap fun e => (c.header? e.2).reports := by
  rw [ofHeaders, Noted.reports_filterMapList]
  congr 1
  funext e
  rw [Noted.reports_bind]
  split <;> simp

theorem reports_ofDeclaration (code : String) (d : ResponseObject) :
    (ofDeclaration c code d).reports = d.headers.flatMap fun e => (c.header? e.2).reports := by
  unfold ofDeclaration
  rw [Noted.reports_bind, reports_ofHeaders]
  dsimp only
  split <;> simp

end Response

namespace Operation

variable (c : Context)

theorem reports_answersOf (d : OperationObject) :
    (answersOf c d).reports = d.responses.flatMap fun e => (c.response? e.2).reports ++
      ((c.response? e.2).value.toList.flatMap fun response =>
        response.headers.flatMap fun e => (c.header? e.2).reports) := by
  rw [answersOf, Noted.reports_filterMapList]
  congr 1
  funext e
  rw [answerOf, Noted.reports_bind]
  cases (c.response? e.2).value with
  | none => rfl
  | some response => simp [Response.reports_ofDeclaration]

theorem reports_declaredParameters (ofPath ofOperation : List (OrReference ParameterObject)) :
    (declaredParameters c ofPath ofOperation).reports =
      (ofOperation ++ ofPath).flatMap fun part => (c.parameter? part).reports := by
  simp [declaredParameters, mergeParameters]

theorem reports_requestOf (d : OperationObject) :
    (requestOf c d).reports = d.requestBody.toList.flatMap fun part =>
      (c.requestBody? part).reports := by
  unfold requestOf
  cases d.requestBody with
  | none => rfl
  | some part =>
    dsimp only
    rw [Noted.reports_bind]
    split <;> simp

theorem reports_nameOf (path : String) (method : HttpMethod) (d : OperationObject) :
    (nameOf c path method d).reports = [] := by
  unfold nameOf rawName
  cases declaredName? d <;> simp

theorem reports_named (models : ModelMap) (path : String) (method : HttpMethod)
    (ofPath : List (OrReference ParameterObject)) (d : OperationObject) (name : String) :
    (named c models path method ofPath d name).reports = (requestOf c d).reports ++
      ((declaredParameters c ofPath d.parameters).reports ++ (answersOf c d).reports) := by
  simp only [named, Noted.reports_bind, Noted.reports_pure, List.append_nil]

end Operation

namespace DeclaredOperation

variable {c : Context} {models : ModelMap} {x : DeclaredOperation} {o : Operation}

theorem reports_of_built (h : x.built c models = .ok o) :
    (Operation.ofDeclaration c models x.path x.method x.pathParameters x.declared).reports =
      (Operation.requestOf c x.declared).reports ++
        ((Operation.declaredParameters c x.pathParameters x.declared.parameters).reports ++
          (Operation.answersOf c x.declared).reports) := by
  unfold built Operation.ofDeclaration at h
  rw [Noted.value_bind] at h
  rw [Operation.ofDeclaration, Noted.reports_bind, Operation.reports_nameOf, List.nil_append]
  split at h
  · exact absurd h (by simp)
  · simp only [Noted.reports_bind, Noted.reports_pure, List.append_nil, Operation.reports_named]

/-- What an operation reports of components is what is noted while the parts that it uses are
followed. -/
theorem mem_reports_of_built (h : x.built c models = .ok o) {note : Note} :
    note ∈ (Operation.ofDeclaration c models x.path x.method x.pathParameters x.declared).reports ↔
      ∃ s part, x.Uses c s part ∧ note ∈ (c.component? s part).notes := by
  rw [reports_of_built h, Operation.reports_requestOf, Operation.reports_declaredParameters,
    Operation.reports_answersOf]
  simp only [List.mem_append, List.mem_flatMap, Option.mem_toList]
  constructor
  · rintro (⟨part, hpart, hnote⟩ | ⟨part, hpart | hpart, hnote⟩ | ⟨e, he, hnote | hnote⟩)
    · exact ⟨.requestBodies, part, .requestBody hpart, Context.reports_component? _ ▸ hnote⟩
    · exact ⟨.parameters, part, .parameter hpart, Context.reports_component? _ ▸ hnote⟩
    · exact ⟨.parameters, part, .sharedParameter hpart, Context.reports_component? _ ▸ hnote⟩
    · exact ⟨.responses, e.2, .response he, Context.reports_component? _ ▸ hnote⟩
    · obtain ⟨response, hanswer, header, hheader, hnote⟩ := hnote
      exact ⟨.headers, header.2, .header he hanswer hheader, Context.reports_component? _ ▸ hnote⟩
  · rintro ⟨s, part, huse, hnote⟩
    rw [← Context.reports_component?] at hnote
    cases huse with
    | requestBody hpart => exact .inl ⟨_, hpart, hnote⟩
    | parameter hpart => exact .inr (.inl ⟨_, .inl hpart, hnote⟩)
    | sharedParameter hpart => exact .inr (.inl ⟨_, .inr hpart, hnote⟩)
    | response he => exact .inr (.inr ⟨_, he, .inl hnote⟩)
    | header he hanswer hheader =>
      exact .inr (.inr ⟨_, he, .inr ⟨_, hanswer, _, hheader, hnote⟩⟩)

end DeclaredOperation

namespace Buckets

variable {c : Context} {models : ModelMap}

@[simp] theorem reports_add (buckets : Buckets) (bucket : String) (o : Operation) :
    (add buckets bucket o).reports = [] := by
  unfold add
  dsimp only
  split <;> simp

@[simp] theorem reports_addToAll (o : Operation) (names : List String) (buckets : Buckets) :
    (addToAll o names buckets).reports = [] := by
  induction names generalizing buckets with
  | nil => rfl
  | cons name names ih => rw [addToAll, Noted.reports_bind, reports_add, ih, List.append_nil]

theorem reports_addDeclared {xs : List DeclaredOperation} {buckets after : Buckets}
    (h : (addDeclared c models xs buckets).value = .ok after) :
    (addDeclared c models xs buckets).reports = xs.flatMap fun x =>
      (Operation.ofDeclaration c models x.path x.method x.pathParameters x.declared).reports := by
  induction xs generalizing buckets with
  | nil => rfl
  | cons x xs ih =>
    rw [addDeclared, Noted.value_bind] at h
    rw [addDeclared, Noted.reports_bind, List.flatMap_cons]
    split at h
    · exact absurd h (by simp)
    · next o ho =>
      rw [Noted.value_bind] at h
      rw [Noted.reports_bind, reports_addToAll, List.nil_append, ih h]

end Buckets

end ApiResolution
