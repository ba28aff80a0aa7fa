import ApiResolution.Operation.OfDeclaration
import ApiResolution.Proofs.Model.Options

/-!
What operations take from the options. Components are followed, parameters, bodies and responses are
made in the same way whatever the options are; only the names of operations, the order of their
parameters and the names of the parameters of a content look at them.
-/

namespace ApiResolution

variable (c : Context) (o : Options)

namespace Context

theorem componentFrom?_withOptions {α : Type} (sectionName : String)
    (components : Entries (OrReference α)) (hops : Nat) (part : OrReference α) :
    (c.withOptions o).componentFrom? sectionName components hops part =
      c.componentFrom? sectionName components hops part := by
  induction hops generalizing part with
  | zero => rfl
  | succ hops ih =>
    cases part with
    | inline value => rfl
    | reference target =>
      rw [componentFrom?, componentFrom?]
      simp only [ih]
      rfl

@[simp] theorem parameter?_withOptions (part : OrReference ParameterObject) :
    (c.withOptions o).parameter? part = c.parameter? part :=
  componentFrom?_withOptions c o _ _ _ part

@[simp] theorem requestBody?_withOptions (part : OrReference RequestBodyObject) :
    (c.withOptions o).requestBody? part = c.requestBody? part :=
  componentFrom?_withOptions c o _ _ _ part

@[simp] theorem response?_withOptions (part : OrReference ResponseObject) :
    (c.withOptions o).response? part = c.response? part :=
  componentFrom?_withOptions c o _ _ _ part

@[simp] theorem header?_withOptions (part : OrReference HeaderObject) :
    (c.withOptions o).header? part = c.header? part :=
  componentFrom?_withOptions c o _ _ _ part

end Context

/-! ## Parameters -/

namespace ParameterObject

variable (d : ParameterObject)
  (enter : List String → String → Schema → List ParameterObject)

mutual

theorem leaves_withOptions (visited : List String) (path : String) :
    (s : Schema) → leaves (c.withOptions o) d enter visited path s =
      leaves c d enter visited path s
  | ⟨a, shape⟩ => by
    cases shape with
    | object ps rs => rw [leaves, leaves, propertyLeaves_withOptions visited path rs ps]
    | map value ps rs => rw [leaves, leaves, propertyLeaves_withOptions visited path rs ps]
    | composed allOf oneOf anyOf ps rs =>
      rw [leaves, leaves, propertyLeaves_withOptions visited path rs ps]
    | _ => rw [leaves, leaves] <;> simp

theorem propertyLeaves_withOptions (visited : List String) (path : String)
    (required : List String) : (ps : List (String × Schema)) →
      propertyLeaves (c.withOptions o) d enter visited path required ps =
        propertyLeaves c d enter visited path required ps
  | [] => by rw [propertyLeaves, propertyLeaves]
  | (name, s) :: ps => by
    rw [propertyLeaves, propertyLeaves, leaves_withOptions visited (memberPath path name) s,
      propertyLeaves_withOptions visited path required ps]
    simp only [Context.refName?_withOptions, Context.dereference_withOptions]

end

theorem leavesBelow_withOptions (rest : Nat) :
    leavesBelow (c.withOptions o) d rest = leavesBelow c d rest := by
  induction rest with
  | zero => rfl
  | succ rest ih =>
    funext visited path s
    rw [leavesBelow, leavesBelow, ih, leaves_withOptions]

@[simp] theorem deepObject?_withOptions : deepObject? (c.withOptions o) d = deepObject? c d := by
  unfold deepObject?
  simp only [Context.dereference_withOptions, leavesBelow_withOptions]
  rfl

end ParameterObject

namespace Parameter

@[simp] theorem ofSchema_withOptions (d : ParameterObject) (s : Schema)
    (contentType : Option String) :
    ofSchema (c.withOptions o) d s contentType = ofSchema c d s contentType := by
  unfold ofSchema
  rw [Property.ofSchema_withOptions]
  rfl

@[simp] theorem ofDeclaration_withOptions : ofDeclaration (c.withOptions o) = ofDeclaration c := by
  funext d
  simp only [ofDeclaration, ofSchema_withOptions]

@[simp] theorem ofForm_withOptions (contentType : String) (schema : Option Schema) :
    ofForm (c.withOptions o) contentType schema = ofForm c contentType schema := by
  have hdereference : (c.withOptions o).dereference = c.dereference :=
    funext (c.dereference_withOptions o)
  simp only [ofForm, ofDeclaration_withOptions, hdereference]

@[simp] theorem ofBody_withOptions (body : RequestBodyObject) (contentType : String)
    (media : MediaTypeObject) :
    ofBody (c.withOptions o) body contentType media = ofBody c body contentType media := by
  have htype : withBodyType (c.withOptions o) = withBodyType c := rfl
  simp only [ofBody, Property.ofSchema_withOptions, Context.conventions_withOptions, htype]

end Parameter

namespace Request

theorem addMedia_withOptions (body : RequestBodyObject) (r : Request) (contentType : String)
    (media : MediaTypeObject) :
    addMedia (c.withOptions o) body r contentType media = addMedia c body r contentType media := by
  have hdereference : (c.withOptions o).dereference = c.dereference :=
    funext (c.dereference_withOptions o)
  simp only [addMedia, Parameter.ofForm_withOptions, Parameter.ofBody_withOptions, hdereference]

theorem addAll_withOptions (body : RequestBodyObject) (medias : List (String × MediaTypeObject))
    (r : Request) : addAll (c.withOptions o) body medias r = addAll c body medias r := by
  induction medias generalizing r with
  | nil => rfl
  | cons media medias ih => simp only [addAll, addMedia_withOptions, ih]

@[simp] theorem ofBody_withOptions (body : RequestBodyObject) :
    ofBody (c.withOptions o) body = ofBody c body :=
  addAll_withOptions c o body body.content {}

end Request

/-! ## Responses -/

namespace Response

@[simp] theorem ofHeaders_withOptions (headers : Entries (OrReference HeaderObject)) :
    ofHeaders (c.withOptions o) headers = ofHeaders c headers := by
  simp only [ofHeaders, ofHeader, Context.header?_withOptions, Property.ofSchema_withOptions]

@[simp] theorem ofDeclaration_withOptions (code : String) (d : ResponseObject) :
    ofDeclaration (c.withOptions o) code d = ofDeclaration c code d := by
  simp only [ofDeclaration, ofHeaders_withOptions, Property.ofSchema_withOptions,
    Context.conventions_withOptions]

@[simp] theorem referencedModel?_withOptions (s : Schema) :
    referencedModel? (c.withOptions o) s = referencedModel? c s := by
  fun_induction referencedModel? c s with
  | case1 a items ih => rw [referencedModel?, ih]
  | case2 a value ps rs ih => rw [referencedModel?, ih]
  | case3 s harray hmap => rw [referencedModel?, Context.refName?_withOptions] <;> assumption

end Response

namespace Operation

@[simp] theorem requestOf_withOptions (d : OperationObject) :
    requestOf (c.withOptions o) d = requestOf c d := by
  simp only [requestOf, Context.requestBody?_withOptions, Request.ofBody_withOptions]

@[simp] theorem declaredParameters_withOptions
    (ofPath ofOperation : List (OrReference ParameterObject)) :
    declaredParameters (c.withOptions o) ofPath ofOperation =
      declaredParameters c ofPath ofOperation := by
  have hparameter : (c.withOptions o).parameter? = c.parameter? :=
    funext (c.parameter?_withOptions o)
  simp only [declaredParameters, mergeParameters, hparameter, Parameter.ofDeclaration_withOptions,
    ParameterObject.deepObject?_withOptions]

@[simp] theorem answersOf_withOptions (d : OperationObject) :
    answersOf (c.withOptions o) d = answersOf c d := by
  simp only [answersOf, answerOf, Context.response?_withOptions,
    Response.ofDeclaration_withOptions]

@[simp] theorem payloadModel?_withOptions (models : ModelMap) (d : ResponseObject) :
    payloadModel? (c.withOptions o) models d = payloadModel? c models d := by
  simp only [payloadModel?, Response.referencedModel?_withOptions]

@[simp] theorem withAnswers_withOptions (models : ModelMap) (answers : List Answer)
    (start : Operation) :
    withAnswers (c.withOptions o) models answers start = withAnswers c models answers start := by
  simp only [withAnswers, payloadModel?_withOptions, Context.conventions_withOptions]

/-- The name of an operation depends on whether it loses its first word. -/
theorem nameOf_withOptions (ho : o.removeOperationIdPrefix = c.options.removeOperationIdPrefix)
    (path : String) (method : HttpMethod) (d : OperationObject) :
    nameOf (c.withOptions o) path method d = nameOf c path method d := by
  have hoptions : (c.withOptions o).options.removeOperationIdPrefix =
      c.options.removeOperationIdPrefix := ho
  simp only [nameOf, hoptions, Context.conventions_withOptions]

/-- An operation depends on the order of its parameters and on their names in its contents. -/
theorem named_withOptions (hsorted : o.sortParamsByRequired = c.options.sortParamsByRequired)
    (hunique : o.ensureUniqueParams = c.options.ensureUniqueParams) (models : ModelMap)
    (path : String) (method : HttpMethod) (ofPath : List (OrReference ParameterObject))
    (d : OperationObject) (name : String) :
    named (c.withOptions o) models path method ofPath d name =
      named c models path method ofPath d name := by
  have hsorted' : (c.withOptions o).options.sortParamsByRequired =
      c.options.sortParamsByRequired := hsorted
  have hunique' : (c.withOptions o).options.ensureUniqueParams =
      c.options.ensureUniqueParams := hunique
  have hdocument : (c.withOptions o).document = c.document := rfl
  simp only [named, requestOf_withOptions, declaredParameters_withOptions, answersOf_withOptions,
    withAnswers_withOptions, hsorted', hunique', hdocument]

theorem ofDeclaration_withOptions
    (hnames : o.removeOperationIdPrefix = c.options.removeOperationIdPrefix)
    (hsorted : o.sortParamsByRequired = c.options.sortParamsByRequired)
    (hunique : o.ensureUniqueParams = c.options.ensureUniqueParams) (models : ModelMap)
    (path : String) (method : HttpMethod) (ofPath : List (OrReference ParameterObject))
    (d : OperationObject) :
    ofDeclaration (c.withOptions o) models path method ofPath d =
      ofDeclaration c models path method ofPath d := by
  simp only [ofDeclaration, nameOf_withOptions c o hnames, named_withOptions c o hsorted hunique]

end Operation
end ApiResolution
