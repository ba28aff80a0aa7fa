import ApiResolution.Proofs.Model.Modes
import ApiResolution.Proofs.Model.Shown
import ApiResolution.Proofs.Operation.Filing
import ApiResolution.Proofs.Operation.Options

/-!
The same operations in two composition modes. Models reach an operation in one place only, the model
of its payload, and what it sees of a model does not depend on the mode as long as the payload refers
to a schema. So the operations of two modes differ in `hasReference` at most, and only where the
payload refers to no schema (`DeclaredOperation.agree_built`). Filing carries the relation from
operations to buckets (`Buckets.agree_ofDocument`).
-/

namespace ApiResolution

/-- The number of containers around what a schema holds in the end. -/
def Schema.nesting : Schema → Nat
  | ⟨_, .array (some items)⟩ => items.nesting + 1
  | ⟨_, .map (some value) _ _⟩ => value.nesting + 1
  | _ => 0

/-- The operation returns a payload of the schema. -/
def DeclaredOperation.Returns (c : Context) (x : DeclaredOperation) (s : Schema) : Prop :=
  ∃ answer ∈ (Operation.answersOf c x.declared).value, answer.response.value.isDefault = true ∧
    ∃ contentType, Response.payload? answer.declared = some (contentType, s)

/-- The operation returns a payload of the schema, which refers to no schema of the document. -/
def DeclaredOperation.ReturnsUndefined (c : Context) (x : DeclaredOperation) (s : Schema) : Prop :=
  x.Returns c s ∧ ∃ name, Response.referencedModel? c s = some name ∧ c.schema? name = none

/-- Two operations differ at most in whether they refer to a model, and in that only at some
places. -/
structure Operation.SameButReference (places : String × HttpMethod → Prop) (a b : Operation) :
    Prop where
  fields : b = { a with hasReference := b.hasReference }
  hasReference : b.hasReference = a.hasReference ∨ places a.place

namespace Operation

variable {c : Context}

/-! ## The model of a payload -/

/-- The name to which the payload that is returned refers. -/
def returnedName? (c : Context) (answers : List Answer) : Option String :=
  (answers.find? fun a => a.response.value.isDefault).bind fun a =>
    (Response.payload? a.declared).bind fun e => Response.referencedModel? c e.2

/-- The model of the payload that is returned. -/
def returnedModel? (c : Context) (models : ModelMap) (answers : List Answer) : Option Model :=
  (answers.find? fun a => a.response.value.isDefault).bind fun a =>
    payloadModel? c models a.declared

theorem map_payloadModel? (models : ModelMap) (d : ResponseObject) :
    (payloadModel? c models d).map (·.discriminator) =
      ((Response.payload? d).bind fun e => Response.referencedModel? c e.2).bind
        models.shownAt := by
  unfold payloadModel?
  cases Response.payload? d with
  | none => rfl
  | some e =>
    simp only [Option.bind_eq_bind, Option.bind_some]
    cases Response.referencedModel? c e.2 with
    | none => rfl
    | some name =>
      simp only [Option.bind_some, ModelMap.shownAt]
      cases Entries.lookup? name models with
      | none => rfl
      | some m =>
        simp only [Option.bind_some, Option.map_some, Option.join_some, Model.shown?]
        split <;> rfl

theorem map_returnedModel? (models : ModelMap) (answers : List Answer) :
    (returnedModel? c models answers).map (·.discriminator) =
      (returnedName? c answers).bind models.shownAt := by
  unfold returnedModel? returnedName?
  cases answers.find? fun a => a.response.value.isDefault with
  | none => rfl
  | some a =>
    rw [Option.bind_some, Option.bind_some]
    exact map_payloadModel? models a.declared

/-- Two maps of models that show the same discriminator of what is returned give the same operation,
apart from whether there is a model. -/
theorem withAnswers_eq {models models' : ModelMap} (answers : List Answer) (start : Operation)
    (h : (returnedModel? c models' answers).bind (·.discriminator) =
      (returnedModel? c models answers).bind (·.discriminator)) :
    withAnswers c models' answers start =
      { withAnswers c models answers start with
        hasReference := (returnedModel? c models' answers).isSome } := by
  unfold withAnswers returnedModel? at *
  dsimp only at h ⊢
  rw [h]
  split <;> rfl

theorem hasReference_withAnswers (models : ModelMap) (answers : List Answer) (start : Operation) :
    (withAnswers c models answers start).hasReference =
      (returnedModel? c models answers).isSome := by
  unfold withAnswers returnedModel?
  dsimp only
  split <;> rfl

theorem bind_discriminator (m : Option Model) :
    m.bind (·.discriminator) = (m.map (·.discriminator)).join := by
  cases m <;> rfl

/-- The models that two modes return show the same discriminator, and one of them is there if the
other one is, unless the payload refers to no schema. -/
theorem returnedModel?_withOptions (hd : (Entries.keys c.schemas).Nodup) (o : Options)
    (answers : List Answer) {found found' : Option Model}
    (hfound : found = returnedModel? c (ModelMap.ofDocument c).value answers)
    (hfound' : found' = returnedModel? c (ModelMap.ofDocument (c.withOptions o)).value answers) :
    found'.bind (·.discriminator) = found.bind (·.discriminator) ∧
      (found'.isSome = found.isSome ∨
        ∃ name, returnedName? c answers = some name ∧ c.schema? name = none) := by
  have hshown : found.map (·.discriminator) =
      (returnedName? c answers).bind (ModelMap.ofDocument c).value.shownAt := by
    rw [hfound, map_returnedModel?]
  have hshown' : found'.map (·.discriminator) =
      (returnedName? c answers).bind (ModelMap.ofDocument (c.withOptions o)).value.shownAt := by
    rw [hfound', map_returnedModel?]
  rw [bind_discriminator, bind_discriminator, ← Option.isSome_map (f := (·.discriminator)),
    ← Option.isSome_map (f := (·.discriminator)) (x := found), hshown, hshown']
  cases hname : returnedName? c answers with
  | none =>
    rw [Option.bind_none, Option.bind_none]
    exact ⟨rfl, .inl rfl⟩
  | some name =>
    rw [Option.bind_some, Option.bind_some]
    -- Without a schema only a composite can have the name, and it shows no discriminator.
    by_cases hs : c.schema? name = none
    · have hnone : ∀ c' : Context, (Entries.keys c'.schemas).Nodup → c'.schema? name = none →
          ((ModelMap.ofDocument c').value.shownAt name).join = none := by
        intro c' hd' hs'
        cases hshow : (ModelMap.ofDocument c').value.shownAt name with
        | none => rfl
        | some shown => rw [ModelMap.shownAt_of_undefined hd' hs' hshow, Option.join_some]
      rw [hnone c hd hs, hnone (c.withOptions o) hd hs]
      exact ⟨rfl, .inr ⟨name, rfl, hs⟩⟩
    · rw [ModelMap.shownAt_withOptions hd o hs]
      exact ⟨rfl, .inl rfl⟩

/-! ## Operations -/

/-- Operations that are made with two maps of models differ where what is returned does. -/
theorem sameButReference_named {models models' : ModelMap} {places : String × HttpMethod → Prop}
    (path : String) (method : HttpMethod) (ofPath : List (OrReference ParameterObject))
    (d : OperationObject) (name : String)
    (hdiscriminator : (returnedModel? c models' (answersOf c d).value).bind (·.discriminator) =
      (returnedModel? c models (answersOf c d).value).bind (·.discriminator))
    (hreference : (returnedModel? c models' (answersOf c d).value).isSome =
      (returnedModel? c models (answersOf c d).value).isSome ∨ places (path, method)) :
    SameButReference places (named c models path method ofPath d name).value
      (named c models' path method ofPath d name).value := by
  have hanswers := fun start => withAnswers_eq (answersOf c d).value start hdiscriminator
  have hplace : (named c models path method ofPath d name).value.place = (path, method) :=
    (named_spec c models path method ofPath d name).1
  constructor
  · unfold named
    simp only [Noted.value_bind, Noted.value_pure, hanswers]
    rfl
  · rcases hreference with heq | hplaces
    · refine .inl ?_
      unfold named
      simp only [Noted.value_bind, Noted.value_pure, hanswers]
      rw [heq, ← hasReference_withAnswers]
    · exact .inr (hplace ▸ hplaces)

theorem returns_of_returnedName? {x : DeclaredOperation} {name : String}
    (h : returnedName? c (answersOf c x.declared).value = some name) (hs : c.schema? name = none) :
    ∃ s, x.ReturnsUndefined c s := by
  obtain ⟨answer, hfind, h⟩ := Option.bind_eq_some_iff.mp h
  obtain ⟨e, hpayload, hname⟩ := Option.bind_eq_some_iff.mp h
  have hdefault : answer.response.value.isDefault = true := by simpa using List.find?_some hfind
  exact ⟨e.2, ⟨answer, List.mem_of_find?_eq_some hfind, hdefault, e.1, hpayload⟩, name, hname, hs⟩

end Operation

/-- The options that operations look at are the same in all modes. -/
theorem Options.of_flat_eq {o o' : Options} (h : o.flat = o'.flat) :
    o'.sortParamsByRequired = o.sortParamsByRequired ∧
      o'.ensureUniqueParams = o.ensureUniqueParams ∧
      o'.removeOperationIdPrefix = o.removeOperationIdPrefix ∧
      o'.checkDuplicatedModelName = o.checkDuplicatedModelName ∧ o'.library = o.library := by
  have hfield : ∀ {α : Type} (field : Options → α), field o.flat = field o'.flat :=
    fun field => congrArg field h
  exact ⟨(hfield Options.sortParamsByRequired).symm, (hfield Options.ensureUniqueParams).symm,
    (hfield Options.removeOperationIdPrefix).symm,
    (hfield Options.checkDuplicatedModelName).symm, (hfield Options.library).symm⟩

/-- In two modes a declaration fails alike, or is made into operations that differ at most in
whether they refer to a model, and in that only where the payload refers to no schema. -/
theorem DeclaredOperation.agree_built {c : Context} (hd : (Entries.keys c.schemas).Nodup)
    {o : Options} (ho : c.options.flat = o.flat) (x : DeclaredOperation) :
    Agree (Operation.SameButReference fun place =>
        x.place = place ∧ ∃ s, x.ReturnsUndefined c s)
      (x.built c (ModelMap.ofDocument c).value)
      (x.built (c.withOptions o) (ModelMap.ofDocument (c.withOptions o)).value) := by
  obtain ⟨hsorted, hunique, hnames, -, -⟩ := Options.of_flat_eq ho
  unfold built
  rw [Operation.ofDeclaration_withOptions c o hnames hsorted hunique]
  unfold Operation.ofDeclaration
  rw [Noted.value_bind, Noted.value_bind]
  cases (Operation.nameOf c x.path x.method x.declared).value with
  | error failure => exact .error failure
  | ok name =>
    obtain ⟨hdiscriminator, hreference⟩ :=
      Operation.returnedModel?_withOptions hd o (Operation.answersOf c x.declared).value rfl rfl
    refine .ok (Operation.sameButReference_named x.path x.method x.pathParameters x.declared name
      hdiscriminator (hreference.imp_right ?_))
    rintro ⟨undefined, hname, hs⟩
    exact ⟨rfl, Operation.returns_of_returnedName? hname hs⟩

/-! ## Buckets -/

namespace Operation.SameButReference

variable {places : String × HttpMethod → Prop} {a b : Operation}

theorem mono {more : String × HttpMethod → Prop} (h : a.SameButReference places b)
    (hmore : ∀ place, places place → more place) : a.SameButReference more b :=
  ⟨h.fields, h.hasReference.imp_right (hmore _)⟩

theorem operationId_eq (h : a.SameButReference places b) : b.operationId = a.operationId := by
  rw [h.fields]

theorem namesOf_eq (h : a.SameButReference places b) (v : Conventions) :
    Buckets.namesOf v b = Buckets.namesOf v a := by
  rw [h.fields]
  rfl

theorem rename (h : a.SameButReference places b) (id : String) :
    SameButReference places { a with operationId := id } { b with operationId := id } where
  fields := by
    rw [h.fields]
  hasReference := h.hasReference

end Operation.SameButReference

namespace Buckets

variable {places : String × HttpMethod → Prop} {buckets buckets' : Buckets}

/-- Buckets of the same names in the same order, whose operations differ at most in whether they
refer to a model, and in that only at some places. -/
def SameButReference (places : String × HttpMethod → Prop) (buckets buckets' : Buckets) : Prop :=
  List.Forall₂ (fun e e' => e'.1 = e.1 ∧
    List.Forall₂ (Operation.SameButReference places) e.2 e'.2) buckets buckets'

namespace SameButReference

theorem nil : SameButReference places [] [] := List.Forall₂.nil

theorem mono {more : String × HttpMethod → Prop} (h : SameButReference places buckets buckets')
    (hmore : ∀ place, places place → more place) : SameButReference more buckets buckets' :=
  List.Forall₂.imp (fun _ _ he => ⟨he.1, he.2.imp fun _ _ hab => hab.mono hmore⟩) h

theorem filed (h : SameButReference places buckets buckets') (name : String) :
    List.Forall₂ (Operation.SameButReference places) (filed buckets name)
      (filed buckets' name) := by
  unfold Buckets.filed
  induction h with
  | nil => exact .nil
  | @cons e e' _ _ he _ ih =>
    obtain ⟨hname, hos⟩ := he
    rw [Entries.lookup?_cons, Entries.lookup?_cons, hname]
    split
    · exact hos
    · exact ih

theorem insert (h : SameButReference places buckets buckets') (name : String)
    {os os' : List Operation} (hos : List.Forall₂ (Operation.SameButReference places) os os') :
    SameButReference places (Entries.insert name os buckets) (Entries.insert name os' buckets') := by
  induction h with
  | nil => exact .cons ⟨rfl, hos⟩ .nil
  | @cons e e' _ _ he hrest ih =>
    rw [Entries.insert, Entries.insert, he.1]
    split
    · exact .cons ⟨rfl, hos⟩ hrest
    · exact .cons ⟨rfl, he.2⟩ ih

/-- Operations with the same names are filed under the same names. -/
theorem add (h : SameButReference places buckets buckets') (name : String) {a b : Operation}
    (hab : a.SameButReference places b) :
    SameButReference places (add buckets name a).value (Buckets.add buckets' name b).value := by
  have hfiled := h.filed name
  have hids : ids (Buckets.filed buckets' name) = ids (Buckets.filed buckets name) :=
    (hfiled.map_eq fun _ _ hab => hab.operationId_eq.symm).symm
  rw [value_add, value_add]
  refine h.insert name (List.rel_append hfiled (.cons ?_ .nil))
  unfold beside
  rw [hids, hab.operationId_eq]
  exact hab.rename _

theorem fileAll (h : SameButReference places buckets buckets')
    {fs fs' : List (String × Operation)}
    (hfs : List.Forall₂ (fun f f' => f'.1 = f.1 ∧ f.2.SameButReference places f'.2) fs fs') :
    SameButReference places (fileAll fs buckets) (Buckets.fileAll fs' buckets') := by
  induction hfs generalizing buckets buckets' with
  | nil => exact h
  | @cons f f' _ _ hf _ ih =>
    have hstep := h.add f.1 hf.2
    rw [← hf.1] at hstep
    rw [Buckets.fileAll, Buckets.fileAll, List.foldl_cons, List.foldl_cons, ← hf.1]
    exact ih hstep

end SameButReference

theorem forall₂_filings (v : Conventions) {os os' : List Operation}
    (h : List.Forall₂ (Operation.SameButReference places) os os') :
    List.Forall₂ (fun f f' => f'.1 = f.1 ∧ f.2.SameButReference places f'.2) (filings v os)
      (filings v os') := by
  induction h with
  | nil => exact .nil
  | @cons a b _ _ hab _ ih =>
    rw [filings_cons, filings_cons, hab.namesOf_eq v]
    refine List.rel_append ?_ ih
    rw [List.forall₂_map_left_iff, List.forall₂_map_right_iff]
    exact List.forall₂_same.mpr fun name _ => ⟨rfl, hab⟩

/-- In two modes the operations of a document fail alike, or are filed in the same buckets. -/
theorem agree_ofDocument {c : Context} (hd : (Entries.keys c.schemas).Nodup) {o : Options}
    (ho : c.options.flat = o.flat) :
    Agree (SameButReference fun place => ∃ x ∈ c.document.operations, x.place = place ∧
        ∃ s, x.ReturnsUndefined c s)
      (ofDocument c (ModelMap.ofDocument c).value).value
      (ofDocument (c.withOptions o) (ModelMap.ofDocument (c.withOptions o)).value).value := by
  have hbuilt : Agree (List.Forall₂ (Operation.SameButReference fun place =>
        ∃ x ∈ c.document.operations, x.place = place ∧ ∃ s, x.ReturnsUndefined c s))
      (c.document.operations.mapM (DeclaredOperation.built c (ModelMap.ofDocument c).value))
      (c.document.operations.mapM (DeclaredOperation.built (c.withOptions o)
        (ModelMap.ofDocument (c.withOptions o)).value)) := by
    refine Agree.mapM fun x hx => (x.agree_built hd ho).imp fun a b hab => ?_
    exact hab.mono fun place hplace => ⟨x, hx, hplace⟩
  rw [ofDocument, ofDocument, value_addDeclared, value_addDeclared]
  refine hbuilt.map fun os os' hos => ?_
  exact SameButReference.nil.fileAll (forall₂_filings c.conventions hos)

end Buckets
end ApiResolution
