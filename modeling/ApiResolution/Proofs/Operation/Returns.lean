import ApiResolution.Proofs.Operation.Parts
import ApiResolution.Proofs.Property.EnumNames

/-!
What an operation returns. An operation derives what it returns from the payload of one of its
responses (`returned_named`), and that response derives its own type from the same payload. The two
agree but for the type that a container holds: the response takes it from the end of the chain of
items, the operation from the items of the outermost container. So they agree exactly where the
items are no containers, or are containers of the same type name (`returns_ofDocument`).
-/

namespace ApiResolution

/-- The type of a container. -/
def ContainerKind.tag : ContainerKind → TypeTag
  | .map => .map
  | _ => .array

namespace Conventions

/-- The type name of a container is no primitive one. -/
theorem isPrimitive_tag_neutral (unicode : Bool) (kind : ContainerKind) :
    (neutral unicode).isPrimitive ((neutral unicode).typeName kind.tag) = false := by
  cases kind <;> rfl

/-- As long as identifiers keep to ASCII, type names of models start in upper case. -/
theorem capitalize_modelName_neutral (name : String) :
    Identifier.capitalize ((neutral false).modelName name) = (neutral false).modelName name := by
  have hmodel : (neutral false).modelName name =
      Identifier.upperCamel (Identifier.sanitize false name) := rfl
  obtain ⟨-, hupper⟩ := Identifier.camelChars_sanitizeChars_spec name.toList
  rw [hmodel]
  unfold Identifier.capitalize Identifier.upperCamel Identifier.sanitize
  simp only [String.toList_ofList, hupper]

end Conventions

namespace Property

variable {v : Conventions}

/-! ## The types of the levels -/

/-- The types of the levels of a chain without their items, from the outside in. -/
def baseTypes (p : Property) : List String := p.levels.map (·.baseType)

theorem baseTypes_eq (p : Property) : p.baseTypes = p.baseType :: p.items.elim [] baseTypes := by
  rcases p with ⟨facts, items⟩
  cases items <;> rfl

theorem baseType_around (v : Conventions) (facts : PropertyFacts) (inner : Property) :
    (around v facts inner).baseType = facts.baseType := by
  unfold around
  dsimp only
  split <;> rfl

theorem baseTypes_refresh (v : Conventions) (p : Property) :
    (refresh v p).baseTypes = p.baseTypes := by
  induction p using Property.innermost.induct with
  | case1 facts =>
    obtain ⟨facts', heq, -, hbase, -⟩ := refreshLeaf_spec v facts none
    rw [refresh, heq]
    exact congrArg ([·]) hbase
  | case2 facts inner ih =>
    have hbase := baseType_around v facts (refresh v inner)
    obtain ⟨facts', heq, -⟩ := around_spec v facts (refresh v inner)
    rw [heq] at hbase
    rw [refresh, heq, baseTypes_eq, Option.elim_some, ih, baseTypes_eq ⟨facts, some inner⟩,
      Option.elim_some, hbase]

theorem baseTypes_of_items {p : Property} (h : p.items = none) : p.baseTypes = [p.baseType] := by
  rw [baseTypes_eq, h, Option.elim_none]

theorem items_setType (v : Conventions) (tag : TypeTag) (p : Property) :
    (setType v tag p).items = p.items := by
  rcases p with ⟨facts, items⟩
  obtain ⟨facts', heq, -⟩ := setType_spec v tag facts items
  rw [heq]

theorem baseType_innermost_refresh (v : Conventions) (p : Property) :
    (refresh v p).innermost.baseType = p.innermost.baseType := by
  rw [innermost_refresh, baseType_refreshLeaf]

theorem wrap_eq (v : Conventions) (kind : ContainerKind) (facts : PropertyFacts)
    (inner : Property) :
    wrap v kind facts inner = refresh v
      ⟨{ facts with container := kind, baseType := v.typeName kind.tag }, some inner⟩ := by
  cases kind <;> rfl

/-- The containers of the property of a schema have the type names of containers. -/
theorem baseTypes_ofSchemaAt (c : Context) (depth : Nat) (name : String) (s : Schema) :
    (ofSchemaAt c depth name s).value.baseTypes =
      (s.containers.take (maxDepth + 1 - depth)).map (c.conventions.typeName ·.tag) ++
        [(ofSchemaAt c depth name s).value.innermost.baseType] := by
  have hleaf : ∀ p : Property, p.items = none → p.baseTypes = [p.innermost.baseType] :=
    fun p h => by rw [baseTypes_of_items h, innermost_eq_self h]
  refine ofSchemaAt_induct (P := fun depth _ s built => built.value.baseTypes =
    (s.containers.take (maxDepth + 1 - depth)).map (c.conventions.typeName ·.tag) ++
      [built.value.innermost.baseType]) ?_ ?_ ?_ depth name s
  · intro depth name s hdeep
    rw [Nat.sub_eq_zero_of_le hdeep]
    exact hleaf _ (items_setType _ _ _)
  · intro depth name s _ hs
    rw [Schema.containers_of_contents?_eq_none hs, List.take_nil, value_leaf]
    exact hleaf _ (items_setType _ _ _)
  · intro depth name s kind items inner built hdeep hs _ hinner hbuilt
    have hlevels : maxDepth + 1 - depth = maxDepth + 1 - (depth + 1) + 1 := by omega
    rw [hbuilt.value, wrap_eq, baseTypes_refresh, baseType_innermost_refresh, baseTypes_eq,
      Schema.containers_of_contents? hs, hlevels, List.take_succ_cons, List.map_cons,
      List.cons_append, Option.elim_some, hinner]
    rfl

/-- The containers of a chain, from the outside in. -/
def containers (p : Property) : List ContainerKind := p.kinds.dropLast

/-- The containers of a chain are those properties of it that have items, they bear the type names
of containers, and the end of the chain bears that of something else. -/
structure Shelved (v : Conventions) (p : Property) : Prop where
  kinds : p.kinds = p.containers ++ [.none]
  containers : ContainerKind.none ∉ p.containers
  baseTypes : p.baseTypes = p.containers.map (v.typeName ·.tag) ++ [p.innermost.baseType]
  leaf : ∃ tag, p.innermost.baseType = v.typeName tag ∧
    (tag.isPlain = true ∨ ∃ name, tag = .reference name)

theorem shelved_ofSchema (c : Context) (name : String) (s : Schema) :
    Shelved c.conventions (ofSchema c name s).value := by
  have hkinds := kinds_ofSchemaAt c 0 name s
  have hcontainers : (ofSchema c name s).value.containers =
      s.containers.take (maxDepth + 1) := by
    rw [Property.containers, ofSchema, hkinds, List.dropLast_concat, Nat.sub_zero]
  constructor
  · rw [hcontainers]
    exact hkinds
  · rw [hcontainers]
    exact s.none_not_mem_take_containers _
  · rw [hcontainers]
    exact baseTypes_ofSchemaAt c 0 name s
  · obtain ⟨tag, hbase, htag⟩ := (built_ofSchema c name s).leafTag
    refine ⟨tag, hbase, htag.elim .inl ?_⟩
    rintro ⟨rfl, harray, hmap, -⟩
    exact (seenTag_isPlain_or_reference c harray hmap).imp id fun ⟨name, _, hseen⟩ => ⟨name, hseen⟩

/-- What is settled of a chain says all that is said of its containers. -/
theorem Shelved.nameIfEnum {p : Property} (h : Shelved v p) : Shelved v (nameIfEnum v p) := by
  have hkinds : (Property.nameIfEnum v p).kinds = p.kinds :=
    apply_nameIfEnum (f := Property.kinds) (fun p => by
      rw [Property.kinds, levels_settled, List.map_map, Property.kinds]
      exact List.map_congr_left fun q _ => by rw [Function.comp_apply, settled_eq]; rfl) v p
  have hbase : (Property.nameIfEnum v p).baseTypes = p.baseTypes :=
    apply_nameIfEnum (f := Property.baseTypes) (fun p => by
      rw [Property.baseTypes, levels_settled, List.map_map, Property.baseTypes]
      exact List.map_congr_left fun q _ => baseType_settled q) v p
  have hend : (Property.nameIfEnum v p).innermost.baseType = p.innermost.baseType :=
    apply_nameIfEnum (f := (·.innermost.baseType)) (fun p => by
      rw [innermost_settled, baseType_settled]) v p
  have hcontainers : (Property.nameIfEnum v p).containers = p.containers :=
    congrArg List.dropLast hkinds
  constructor
  · rw [hkinds, hcontainers, ← h.kinds]
  · rw [hcontainers]
    exact h.containers
  · rw [hbase, hcontainers, hend, ← h.baseTypes]
  · rw [hend]
    exact h.leaf

/-! ## The type that a chain holds -/

section Held

variable {p : Property}

theorem Shelved.of_containers_nil (h : Shelved v p) (hnil : p.containers = []) :
    p.isContainer = false ∧ p.items = none := by
  have hkinds := h.kinds
  rw [hnil, List.nil_append, kinds_eq] at hkinds
  obtain ⟨hcontainer, hitems⟩ := List.cons.inj hkinds
  refine ⟨by simp [isContainer, hcontainer], ?_⟩
  cases hp : p.items with
  | none => rfl
  | some inner =>
    rw [hp, Option.elim_some, kinds_eq] at hitems
    exact absurd hitems (by simp)

/-- The type of the items of the outermost container is that of the container among them, and of the
end of the chain where there is none. -/
theorem Shelved.of_containers_cons (h : Shelved v p) {kind : ContainerKind}
    {rest : List ContainerKind} (hcons : p.containers = kind :: rest) :
    p.isContainer = true ∧ ∃ inner, p.items = some inner ∧
      inner.baseType = (rest.head?.map (v.typeName ·.tag)).getD p.innermost.baseType := by
  have hkinds := h.kinds
  have hnone := h.containers
  have hbase := h.baseTypes
  rw [hcons] at hkinds hnone hbase
  rw [kinds_eq, List.cons_append] at hkinds
  obtain ⟨hcontainer, hitems⟩ := List.cons.inj hkinds
  refine ⟨?_, ?_⟩
  · have hne : kind ≠ .none := fun heq => hnone (heq ▸ List.mem_cons_self)
    simpa [isContainer, hcontainer] using hne
  cases hp : p.items with
  | none =>
    rw [hp, Option.elim_none] at hitems
    exact absurd hitems (by simp)
  | some inner =>
    refine ⟨inner, rfl, ?_⟩
    rw [baseTypes_eq, hp, Option.elim_some, List.map_cons, List.cons_append] at hbase
    have hinner := (List.cons.inj hbase).2
    rw [baseTypes_eq] at hinner
    cases rest with
    | nil => exact (List.cons.inj hinner).1
    | cons second rest => exact (List.cons.inj hinner).1

/-- An operation and its response say the same of the type that they find in a chain exactly where
they would say the same of the second container of the chain and of its end. -/
theorem Shelved.apply_returnedBaseType_eq_iff {α : Type} (h : Shelved v p) (f : String → α) :
    f (Operation.returnedBaseType p) = f (Response.heldType p) ↔
      ∀ kind ∈ p.containers[1]?, f (v.typeName kind.tag) = f p.innermost.baseType := by
  unfold Operation.returnedBaseType Response.heldType
  cases hcontainers : p.containers with
  | nil =>
    obtain ⟨hcontainer, hitems⟩ := h.of_containers_nil hcontainers
    simp [hcontainer, hitems]
  | cons kind rest =>
    obtain ⟨hcontainer, inner, hitems, hbase⟩ := h.of_containers_cons hcontainers
    rw [hitems, if_pos hcontainer]
    dsimp only
    rw [hbase]
    cases rest <;> simp

/-- As long as identifiers keep to ASCII, only containers bear the type names of containers. -/
theorem Shelved.typeName_tag_ne (h : Shelved (.neutral false) p) (kind : ContainerKind) :
    (Conventions.neutral false).typeName kind.tag ≠ p.innermost.baseType := by
  obtain ⟨tag, hbase, htag⟩ := h.leaf
  rw [hbase]
  intro heq
  -- A plain type is primitive and a named one starts in upper case; a container's is neither.
  rcases htag with hplain | ⟨name, rfl⟩
  · have hprimitive := Conventions.isPrimitive_neutral false hplain
    rw [← heq, Conventions.isPrimitive_tag_neutral] at hprimitive
    exact absurd hprimitive (by simp)
  · have hupper := Conventions.capitalize_modelName_neutral name
    rw [← Conventions.typeName_reference_neutral, ← heq] at hupper
    revert hupper
    cases kind <;> decide

theorem containers_getElem?_eq_none_iff : p.containers[1]? = none ↔ p.containers.length ≤ 1 :=
  List.getElem?_eq_none_iff

theorem Shelved.second_typeName_iff (h : Shelved (.neutral false) p) :
    (∀ kind ∈ p.containers[1]?,
      (Conventions.neutral false).typeName kind.tag = p.innermost.baseType) ↔
      p.containers.length ≤ 1 := by
  rw [← containers_getElem?_eq_none_iff]
  cases p.containers[1]? with
  | none => simp
  | some kind => simp [h.typeName_tag_ne kind]

theorem second_isPrimitive_iff (unicode : Bool) :
    (∀ kind ∈ p.containers[1]?, (Conventions.neutral unicode).isPrimitive
        ((Conventions.neutral unicode).typeName kind.tag) =
      (Conventions.neutral unicode).isPrimitive p.innermost.baseType) ↔
      p.containers.length ≤ 1 ∨
        (Conventions.neutral unicode).isPrimitive p.innermost.baseType = false := by
  rw [← containers_getElem?_eq_none_iff]
  cases p.containers[1]? with
  | none => simp
  | some kind =>
    simp only [Option.mem_def, Option.some.injEq, forall_eq', reduceCtorEq, false_or,
      Conventions.isPrimitive_tag_neutral]
    exact eq_comm

end Held

end Property
/-! ## Responses -/

/-- What a response says of its type follows from its payload; without one it is a simple type. -/
structure Response.Typed (v : Conventions) (r : Response) : Prop where
  shelved : ∀ p, r.schema = some p → p.Shelved v
  dataType : r.dataType = r.schema.map (·.datatype)
  baseType : r.baseType = r.schema.map heldType
  container : r.container = (r.schema.map (·.container)).getD .none
  simpleType : r.simpleType = r.schema.all (!·.isContainer)
  primitiveType : r.primitiveType = r.schema.all fun p => v.isPrimitive (heldType p)

namespace Response

variable {v : Conventions}

theorem stable_typed (v : Conventions) : Stable (Typed v) where
  hasMore _ _ h := ⟨h.shelved, h.dataType, h.baseType, h.container, h.simpleType, h.primitiveType⟩
  isDefault _ _ h := ⟨h.shelved, h.dataType, h.baseType, h.container, h.simpleType, h.primitiveType⟩

theorem typed_ofDeclaration (c : Context) (code : String) (d : ResponseObject) :
    Typed c.conventions (ofDeclaration c code d).value.value := by
  unfold ofDeclaration
  simp only [Noted.value_bind]
  split
  · exact ⟨fun _ h => absurd h (by simp [declared]), rfl, rfl, rfl, rfl, rfl⟩
  · next contentType s _ =>
    refine ⟨fun p hp => ?_, rfl, rfl, rfl, rfl, rfl⟩
    rw [← Option.some.inj hp]
    exact (Property.shelved_ofSchema c "response" s).nameIfEnum

/-- A response without the mark of its place. -/
def unmarked (r : Response) : Response := { r with hasMore := false }

theorem map_unmarked_markHasMore (rs : List Response) :
    (markHasMore rs).map unmarked = rs.map unmarked := by
  have hmark : ∀ (more : Bool) (r : Response), unmarked { r with hasMore := more } = unmarked r :=
    fun _ _ => rfl
  rw [markHasMore_eq, map_setMarks hmark]

/-- The first response that is the default is the same of marked ones but for its mark. -/
theorem find?_isDefault_markHasMore (rs : List Response) :
    ((markHasMore rs).find? (·.isDefault)).map unmarked =
      (rs.find? (·.isDefault)).map unmarked := by
  have hfind : ∀ qs : List Response,
      (qs.map unmarked).find? (·.isDefault) = (qs.find? (·.isDefault)).map unmarked :=
    fun qs => List.find?_map ..
  rw [← hfind, ← hfind, map_unmarked_markHasMore]

end Response

/-! ## What an operation returns -/

/-- What an operation says of the response that it returns. -/
structure Returned where
  type : Option String
  baseType : Option String
  container : ContainerKind
  simpleType : Bool
  isPrimitive : Bool
  hasReference : Bool
  discriminator : Option Discriminator
  headers : List Property

namespace Operation

/-- What an operation says of the response that it returns. -/
def returned (o : Operation) : Returned where
  type := o.returnType
  baseType := o.returnBaseType
  container := o.returnContainer
  simpleType := o.returnSimpleType
  isPrimitive := o.returnTypeIsPrimitive
  hasReference := o.hasReference
  discriminator := o.discriminator
  headers := o.responseHeaders

/-- What an operation says of what it returns when an answer is the one that it returns. `refers` is
whether a parameter refers to a model. -/
def returnedBy (c : Context) (models : ModelMap) (answer : Option Answer) (refers : Bool) :
    Returned :=
  let schema := answer.bind fun a => a.response.value.schema
  let model := answer.bind fun a => payloadModel? c models a.declared
  { type := schema.map (·.datatype)
    baseType := schema.map returnedBaseType
    container := (schema.map (·.container)).getD .none
    simpleType := schema.all (!·.isContainer)
    isPrimitive := schema.all fun p => c.conventions.isPrimitive (returnedBaseType p)
    hasReference := model.isSome || refers
    discriminator := model.bind (·.discriminator)
    headers := (answer.map (·.response.value.headers)).getD [] }

/-- The answer that an operation returns. -/
def returnedAnswer? (c : Context) (d : OperationObject) : Option Answer :=
  (answersOf c d).value.find? (·.response.value.isDefault)

theorem returned_withAnswers (c : Context) (models : ModelMap) (answers : List Answer)
    {o : Operation} (htype : o.returnType = none)
    (hbase : o.returnBaseType = none) (hcontainer : o.returnContainer = .none) :
    (withAnswers c models answers o).returned =
      returnedBy c models (answers.find? (·.response.value.isDefault)) false := by
  unfold withAnswers returnedBy
  dsimp only
  cases (answers.find? (·.response.value.isDefault)).bind fun a => a.response.value.schema with
  | none => simp only [returned, htype, hbase, hcontainer, Bool.or_false]; rfl
  | some p => simp only [returned, Bool.or_false]; rfl

/-- What an operation returns follows from one of its answers and from its parameters. -/
theorem returned_named (c : Context) (models : ModelMap) (path : String) (method : HttpMethod)
    (ofPath : List (OrReference ParameterObject)) (d : OperationObject) (name : String) :
    let made := (named c models path method ofPath d name).value
    made.returned =
      returnedBy c models (returnedAnswer? c d) (made.allParams.any (·.isModel)) := by
  intro made
  have hmade : ∃ start : Operation, start.returnType = none ∧ start.returnBaseType = none ∧
      start.returnContainer = .none ∧ made.returned =
        { (withAnswers c models (answersOf c d).value start).returned with
          hasReference := (withAnswers c models (answersOf c d).value start).hasReference ||
            made.allParams.any (·.isModel) } := ⟨_, rfl, rfl, rfl, rfl⟩
  obtain ⟨start, htype, hbase, hcontainer, hmade⟩ := hmade
  have hreturned := returned_withAnswers c models (answersOf c d).value htype hbase hcontainer
  have hrefers : (withAnswers c models (answersOf c d).value start).hasReference =
      (returnedBy c models (returnedAnswer? c d) false).hasReference :=
    congrArg Returned.hasReference hreturned
  rw [hmade, hreturned, hrefers]
  simp only [returnedBy, Bool.or_false, returnedAnswer?]

/-- The default response of an operation is the response of the answer that it returns. -/
theorem defaultResponse?_named (c : Context) (models : ModelMap) (path : String)
    (method : HttpMethod) (ofPath : List (OrReference ParameterObject)) (d : OperationObject)
    (name : String) :
    (named c models path method ofPath d name).value.defaultResponse?.map Response.unmarked =
      (returnedAnswer? c d).map (·.response.value.unmarked) := by
  rw [defaultResponse?, responses_named, Response.find?_isDefault_markHasMore, List.find?_map,
    Option.map_map]
  rfl

end Operation
/-! ## Agreement -/

/-- An operation says the same as a response of what is returned, but for the type that is held by
containers in containers. -/
structure Operation.Returns (v : Conventions) (o : Operation) (r : Response) : Prop where
  type : o.returnType = r.dataType
  container : o.returnContainer = r.container
  simpleType : o.returnSimpleType = r.simpleType
  baseType_iff : o.returnBaseType = r.baseType ↔ ∀ p ∈ r.schema,
    ∀ kind ∈ p.containers[1]?, v.typeName kind.tag = p.innermost.baseType
  isPrimitive_iff : o.returnTypeIsPrimitive = r.primitiveType ↔ ∀ p ∈ r.schema,
    ∀ kind ∈ p.containers[1]?,
      v.isPrimitive (v.typeName kind.tag) = v.isPrimitive p.innermost.baseType

namespace Operation

theorem Returns.setOperationId {v : Conventions} {o : Operation} {r : Response}
    (h : o.Returns v r) (operationId : String) : Returns v { o with operationId } r :=
  ⟨h.type, h.container, h.simpleType, h.baseType_iff, h.isPrimitive_iff⟩

variable {c : Context} {models : ModelMap} {path : String} {method : HttpMethod}
  {ofPath : List (OrReference ParameterObject)} {d : OperationObject} {name : String}

theorem typed_defaultResponse? {r : Response}
    (hr : (named c models path method ofPath d name).value.defaultResponse? = some r) :
    r.Typed c.conventions :=
  forall_responses_named (Response.stable_typed _) (Response.typed_ofDeclaration c) r
    (List.mem_of_find?_eq_some hr)

theorem returns_named {r : Response}
    (hr : (named c models path method ofPath d name).value.defaultResponse? = some r) :
    (named c models path method ofPath d name).value.Returns c.conventions r := by
  have htyped := typed_defaultResponse? hr
  have hreturned := returned_named c models path method ofPath d name
  have hanswer := defaultResponse?_named c models path method ofPath d name
  rw [hr, Option.map_some] at hanswer
  obtain ⟨answer, hfound, hsame⟩ := Option.map_eq_some_iff.mp hanswer.symm
  have hschema : answer.response.value.unmarked.schema = r.unmarked.schema :=
    congrArg Response.schema hsame
  replace hschema : answer.response.value.schema = r.schema := hschema
  rw [hfound] at hreturned
  simp only [returnedBy, Option.bind_some, hschema] at hreturned
  constructor
  · rw [htyped.dataType]
    exact congrArg Returned.type hreturned
  · rw [htyped.container]
    exact congrArg Returned.container hreturned
  · rw [htyped.simpleType]
    exact congrArg Returned.simpleType hreturned
  · have hbase : (named c models path method ofPath d name).value.returnBaseType =
        r.schema.map returnedBaseType := congrArg Returned.baseType hreturned
    rw [hbase, htyped.baseType]
    cases hp : r.schema with
    | none => simp
    | some p =>
      have hiff := (htyped.shelved p hp).apply_returnedBaseType_eq_iff id
      simpa using hiff
  · have hprimitive : (named c models path method ofPath d name).value.returnTypeIsPrimitive =
        r.schema.all fun p => c.conventions.isPrimitive (returnedBaseType p) :=
      congrArg Returned.isPrimitive hreturned
    rw [hprimitive, htyped.primitiveType]
    cases hp : r.schema with
    | none => simp
    | some p =>
      have hiff := (htyped.shelved p hp).apply_returnedBaseType_eq_iff c.conventions.isPrimitive
      simpa using hiff

end Operation
namespace Resolution

/-- Every operation of a resolution says what its default response says: the same type, the same
container and whether it is simple. Of the type that is held in the end they say the same exactly
where the payload has no second container, or one with the type name of the end, and likewise of
whether that type is primitive. By the neutral names no container bears the type name of another
type, so a second container always makes a difference to the type, and it makes one to whether the
type is primitive wherever the end is. -/
theorem returns_ofDocument {o : Options} {v : Conventions} {d : Document} {r : Resolution}
    (h : ofDocument o v d = .ok r) :
    ∀ e ∈ r.operations, ∀ x ∈ e.2, ∀ a, x.defaultResponse? = some a →
      x.Returns v a ∧
      (v = .neutral false →
        (x.returnBaseType = a.baseType ↔ ∀ p ∈ a.schema, p.containers.length ≤ 1) ∧
        (x.returnTypeIsPrimitive = a.primitiveType ↔ ∀ p ∈ a.schema,
          p.containers.length ≤ 1 ∨ v.isPrimitive p.innermost.baseType = false)) := by
  refine forall_operations h (fun x operationId hx a ha =>
    ⟨(hx a ha).1.setOperationId operationId, (hx a ha).2⟩) ?_
  intro path method ofPath declared name a ha
  have hreturns := Operation.returns_named ha
  have htyped := Operation.typed_defaultResponse? ha
  refine ⟨hreturns, ?_⟩
  rintro rfl
  refine ⟨hreturns.baseType_iff.trans ?_, hreturns.isPrimitive_iff.trans ?_⟩
  · exact forall₂_congr fun p hp => (htyped.shelved p hp).second_typeName_iff
  · exact forall₂_congr fun p _ => Property.second_isPrimitive_iff false

/-- A document with an operation that returns words in some container. -/
def wordsIn (payload : Schema → Schema) : Document :=
  let words : MediaTypeObject := { schema := some (payload (.ofShape (.scalar .string))) }
  let list : OperationObject :=
    { operationId := some "list"
      responses := [("200", .inline { content := [("application/json", words)] })] }
  { paths := [("/words", { get := some list })] }

/-- An array of items. -/
def arrayOf (items : Schema) : Schema := .ofShape (.array (some items))

/-- What is said of the types that are held, by the first operation and by its default response. -/
def heldTypes (d : Document) : Option ((Option String × Bool) × Option String × Bool) :=
  (ofDocument {} (.neutral false) d).toOption.bind fun r => r.operations.head?.bind fun e =>
    e.2.head?.bind fun x => x.defaultResponse?.map fun a =>
      ((x.returnBaseType, x.returnTypeIsPrimitive), a.baseType, a.primitiveType)

theorem exists_of_heldTypes {d : Document} {held : (Option String × Bool) × Option String × Bool}
    (h : heldTypes d = some held) :
    ∃ r e x a, ofDocument {} (.neutral false) d = .ok r ∧ e ∈ r.operations ∧ x ∈ e.2 ∧
      x.defaultResponse? = some a ∧
      ((x.returnBaseType, x.returnTypeIsPrimitive), a.baseType, a.primitiveType) = held := by
  obtain ⟨r, hr, h⟩ := Option.bind_eq_some_iff.mp h
  obtain ⟨e, he, h⟩ := Option.bind_eq_some_iff.mp h
  obtain ⟨x, hx, h⟩ := Option.bind_eq_some_iff.mp h
  obtain ⟨a, ha, h⟩ := Option.map_eq_some_iff.mp h
  exact ⟨r, e, x, a, ofDocument_eq_ok hr, List.mem_of_mem_head? he, List.mem_of_mem_head? hx, ha, h⟩

theorem returns_words :
    ∃ r e x a, ofDocument {} (.neutral false) (wordsIn arrayOf) = .ok r ∧ e ∈ r.operations ∧
      x ∈ e.2 ∧ x.defaultResponse? = some a ∧ x.Returns (.neutral false) a ∧
      x.returnBaseType = some "string" ∧ a.baseType = some "string" := by
  have hheld : heldTypes (wordsIn arrayOf) =
      some ((some "string", true), some "string", true) := by decide +kernel
  obtain ⟨r, e, x, a, hr, he, hx, ha, hheld⟩ := exists_of_heldTypes hheld
  obtain ⟨hreturns, -⟩ := returns_ofDocument hr e he x hx a ha
  simp only [Prod.mk.injEq] at hheld
  exact ⟨r, e, x, a, hr, he, hx, ha, hreturns, hheld.1.1, hheld.2.1⟩

/-- Of words in arrays in an array, the operation returns arrays and its default response words. -/
theorem not_returns_rows :
    ∃ r e x a, ofDocument {} (.neutral false) (wordsIn fun word => arrayOf (arrayOf word)) = .ok r ∧
      e ∈ r.operations ∧ x ∈ e.2 ∧ x.defaultResponse? = some a ∧
      x.returnBaseType = some "array" ∧ a.baseType = some "string" ∧
      x.returnTypeIsPrimitive = false ∧ a.primitiveType = true := by
  have hheld : heldTypes (wordsIn fun word => arrayOf (arrayOf word)) =
      some ((some "array", false), some "string", true) := by decide +kernel
  obtain ⟨r, e, x, a, hr, he, hx, ha, hheld⟩ := exists_of_heldTypes hheld
  simp only [Prod.mk.injEq] at hheld
  exact ⟨r, e, x, a, hr, he, hx, ha, hheld.1.1, hheld.2.1, hheld.1.2, hheld.2.2⟩

end Resolution
end ApiResolution
