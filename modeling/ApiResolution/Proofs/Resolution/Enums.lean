import ApiResolution.Proofs.Model.Enums
import ApiResolution.Proofs.Operation.Parts

/-!
The enum values of a resolution by the neutral conventions. Along a chain of items of a model, a
member, a parameter or a payload, the values at the two ends have named members if the end lists
values, and no others have. Headers and the properties of arrays and maps as a whole are never named
(`namedAtEnds_ofDocument`).
-/

namespace ApiResolution

/-- What is listed by a parameter and at each level of its items. -/
def Parameter.enumChain (p : Parameter) : List (Option EnumValues) :=
  p.enumValues :: p.items.elim [] Property.enumChain

/-- What the parameters and the payloads of an operation list is named, and what headers list is
not. -/
structure Operation.EnumsNamed (x : Operation) : Prop where
  parameters : ∀ p, x.HasParameter p → NamedAtEnds p.enumChain
  payloads : ∀ response ∈ x.responses, ∀ p ∈ response.schema, NamedAtEnds p.enumChain
  headers : ∀ response ∈ x.responses, ∀ p ∈ response.headers, ∀ e, some e ∈ p.enumChain → ¬ e.Named
  responseHeaders : ∀ p ∈ x.responseHeaders, ∀ e, some e ∈ p.enumChain → ¬ e.Named

namespace Parameter

variable {c : Context} {unicode : Bool}

theorem stable_namedAtEnds : Stable fun p => NamedAtEnds p.enumChain :=
  ⟨fun _ _ h => h, fun _ _ h => h, fun _ _ h => h⟩

/-- A parameter lists what its property lists. -/
theorem enumChain_withType (property : Property) (p : Parameter) :
    (withType property p).enumChain = property.enumChain :=
  (Property.enumChain_eq property).symm

/-- The property of a schema, with named members if it is an enum. -/
theorem namedAtEnds_withType (hv : c.conventions = .neutral unicode) (name : String) (s : Schema)
    (p : Parameter) :
    NamedAtEnds (withType
      (Property.nameIfEnum c.conventions (Property.ofSchema c name s).value) p).enumChain := by
  rw [enumChain_withType]
  refine Property.namedAtEnds_nameIfEnum ?_ (Property.enumsFormed_ofSchema c name s)
  rw [hv]
  exact fun _ _ => rfl

theorem finishParameter_neutral (hv : c.conventions = .neutral unicode) (p : Parameter) :
    c.conventions.finishParameter p = p := by
  rw [hv]
  rfl

theorem namedAtEnds_ofDeclaration (hv : c.conventions = .neutral unicode) (d : ParameterObject) :
    NamedAtEnds (ofDeclaration c d).value.value.enumChain := by
  have htyped : ∀ s contentType, NamedAtEnds (ofSchema c d s contentType).value.value.enumChain := by
    intro s contentType
    unfold ofSchema
    simp only [Noted.value_bind, Noted.value_pure, finishParameter_neutral hv]
    exact namedAtEnds_withType hv d.name s (declared c.conventions d s contentType)
  unfold ofDeclaration
  split
  · exact htyped _ _
  · exact htyped _ _

theorem namedAtEnds_ofBody (hv : c.conventions = .neutral unicode) (body : RequestBodyObject)
    (contentType : String) (media : MediaTypeObject) :
    NamedAtEnds (ofBody c body contentType media).value.value.enumChain := by
  unfold ofBody
  dsimp only
  cases media.schema with
  | none =>
    simp only [Noted.value_bind, Noted.value_pure, finishParameter_neutral hv]
    intro i e hi
    cases i <;> exact absurd hi (by simp [enumChain, withObjectType, bodyDeclared])
  | some s =>
    simp only [Noted.value_bind, Noted.value_pure, finishParameter_neutral hv]
    unfold withBodyType
    dsimp only
    have hnamed := namedAtEnds_withType hv (bodyName body) s
      (bodyDeclared c.conventions body (bodyName body) contentType media)
    split <;> exact hnamed

end Parameter

namespace Operation

variable {c : Context} {unicode : Bool} {models : ModelMap} {path : String} {method : HttpMethod}
  {ofPath : List (OrReference ParameterObject)} {d : OperationObject} {name : String}

theorem not_named_of_mem_ofHeaders {headers : Entries (OrReference HeaderObject)} {p : Property}
    (h : p ∈ (Response.ofHeaders c headers).value) : ∀ e, some e ∈ p.enumChain → ¬ e.Named := by
  obtain ⟨name, s, description, required, rfl⟩ := Response.exists_ofSchema_of_mem_ofHeaders h
  refine Property.EnumsFormed.not_named ?_
  exact (Property.enumsFormed_ofSchema c name s).congr rfl

theorem enumsNamed_named (hv : c.conventions = .neutral unicode) :
    (named c models path method ofPath d name).value.EnumsNamed where
  parameters := forall_parameters_named Parameter.stable_namedAtEnds
    (Parameter.namedAtEnds_ofDeclaration hv) (Parameter.namedAtEnds_ofBody hv)
  payloads := by
    refine forall_responses_named (P := fun r => ∀ p ∈ r.schema, NamedAtEnds p.enumChain)
      ⟨fun _ _ h => h, fun _ _ h => h⟩ fun code declared p hp => ?_
    obtain ⟨s, rfl⟩ := Response.exists_ofSchema_of_schema_ofDeclaration hp
    refine Property.namedAtEnds_nameIfEnum ?_ (Property.enumsFormed_ofSchema c "response" s)
    rw [hv]
    exact fun _ _ => rfl
  headers := by
    refine forall_responses_named
      (P := fun r => ∀ p ∈ r.headers, ∀ e, some e ∈ p.enumChain → ¬ e.Named)
      ⟨fun _ _ h => h, fun _ _ h => h⟩ fun code declared p hp => ?_
    rw [Response.headers_ofDeclaration] at hp
    exact not_named_of_mem_ofHeaders hp
  responseHeaders := forall_responseHeaders_named fun _ _ => not_named_of_mem_ofHeaders

theorem EnumsNamed.copy {x : Operation} (h : x.EnumsNamed) (operationId : String) :
    ({ x with operationId } : Operation).EnumsNamed where
  parameters p hp := by
    refine h.parameters p ?_
    cases hp with
    | listed hps hp => exact .listed hps hp
    | inContent hc hp => exact .inContent hc hp
    | ofBody hp => exact .ofBody hp
  payloads := h.payloads
  headers := h.headers
  responseHeaders := h.responseHeaders

end Operation

namespace Resolution

variable {o : Options} {d : Document} {r : Resolution} {unicode : Bool}

/-- What is listed along a chain of items: by a model, a member, a parameter or a payload. -/
inductive ListsValues (r : Resolution) : List (Option EnumValues) → Prop
  | model {e : String × Model} (he : e ∈ r.models) : ListsValues r [e.2.enumValues]
  | var {e : String × Model} (he : e ∈ r.models) {p : Property} (hp : p ∈ e.2.vars) :
      ListsValues r p.enumChain
  | allVar {e : String × Model} (he : e ∈ r.models) {p : Property} (hp : p ∈ e.2.allVars) :
      ListsValues r p.enumChain
  | parameter {e : String × List Operation} (he : e ∈ r.operations) {x : Operation} (hx : x ∈ e.2)
      {p : Parameter} (hp : x.HasParameter p) : ListsValues r p.enumChain
  | payload {e : String × List Operation} (he : e ∈ r.operations) {x : Operation} (hx : x ∈ e.2)
      {response : Response} (hresponse : response ∈ x.responses) {p : Property}
      (hp : response.schema = some p) : ListsValues r p.enumChain

/-- What is listed along the chain of items of an array or a map as a whole, or of a header. -/
inductive ListsUnnamed (r : Resolution) : List (Option EnumValues) → Prop
  | whole {e : String × Model} (he : e ∈ r.models) {p : Property}
      (hp : e.2.containerProperty = some p) : ListsUnnamed r p.enumChain
  | header {e : String × List Operation} (he : e ∈ r.operations) {x : Operation} (hx : x ∈ e.2)
      {response : Response} (hresponse : response ∈ x.responses) {p : Property}
      (hp : p ∈ response.headers) : ListsUnnamed r p.enumChain
  | responseHeader {e : String × List Operation} (he : e ∈ r.operations) {x : Operation}
      (hx : x ∈ e.2) {p : Property} (hp : p ∈ x.responseHeaders) : ListsUnnamed r p.enumChain

/-- By the neutral conventions, the values that models, members, parameters and payloads list have
named members at the two ends of the chain of items, if its end lists values, and nowhere else. What
headers and the properties of arrays and maps as a whole list has no named members. -/
theorem namedAtEnds_ofDocument (h : ofDocument o (.neutral unicode) d = .ok r) :
    (∀ chain, r.ListsValues chain → NamedAtEnds chain) ∧
      ∀ chain, r.ListsUnnamed chain → ∀ e, some e ∈ chain → ¬ e.Named := by
  have hmodels : ∀ e ∈ r.models, e.2.EnumsNamed := by
    rw [(of_ofDocument h).models]
    exact ModelMap.enumsNamed_ofDocument rfl
  have hoperations : ∀ e ∈ r.operations, ∀ x ∈ e.2, x.EnumsNamed :=
    forall_operations h (fun x id hx => hx.copy id) fun _ _ _ _ _ => Operation.enumsNamed_named rfl
  constructor
  · intro chain hchain
    cases hchain with
    | model he => exact (hmodels _ he).own
    | var he hp => exact (hmodels _ he).vars _ hp
    | allVar he hp => exact (hmodels _ he).allVars _ hp
    | parameter he hx hp => exact (hoperations _ he _ hx).parameters _ hp
    | payload he hx hresponse hp => exact (hoperations _ he _ hx).payloads _ hresponse _ hp
  · intro chain hchain
    cases hchain with
    | whole he hp => exact (hmodels _ he).whole _ hp
    | header he hx hresponse hp => exact (hoperations _ he _ hx).headers _ hresponse _ hp
    | responseHeader he hx hp => exact (hoperations _ he _ hx).responseHeaders _ hp

/-- An operation with an order for a parameter, which it returns in a header. -/
def orderedPets : Document :=
  let order : Schema := { shape := .scalar .string, enumValues := [.string "asc", .string "desc"] }
  { paths := [("/pets",
      { get := some
          { operationId := some "list"
            parameters := [.inline
              { name := "order", location := "query", schema := some (.ofShape (.array order)) }]
            responses := [("200",
              .inline { headers := [("X-Order", .inline { schema := some order })] })] } })] }

/-- The parameter and its items have named members. -/
theorem namedAtEnds_orderedPets :
    ∃ r e x p, ofDocument {} (.neutral false) orderedPets = .ok r ∧ e ∈ r.operations ∧ x ∈ e.2 ∧
      p ∈ x.queryParams ∧ p.enumChain.length = 2 ∧ NamedAtEnds p.enumChain ∧
      ∀ listed, p.enumValues = some listed → listed.Named := by
  have hrun : (ofDocument {} (.neutral false) orderedPets).toOption.map
      (fun r => r.operations.map fun e => e.2.map fun x => x.queryParams.map fun p =>
        (p.enumChain.length, p.enumChain.map Option.isSome)) =
      some [[[(2, [true, true])]]] := by decide +kernel
  obtain ⟨r, hr, hchains⟩ := Option.map_eq_some_iff.mp hrun
  replace hr := ofDocument_eq_ok hr
  obtain ⟨e, he, hoperations⟩ := List.mem_map.mp (hchains ▸ List.mem_singleton_self _)
  obtain ⟨x, hx, hparameters⟩ := List.mem_map.mp (hoperations ▸ List.mem_singleton_self _)
  obtain ⟨p, hp, hchain⟩ := List.mem_map.mp (hparameters ▸ List.mem_singleton_self _)
  obtain ⟨hlength, hlisted⟩ := Prod.mk.inj hchain
  have hnamed := (namedAtEnds_ofDocument hr).1 p.enumChain
    (.parameter he hx (.listed (by simp [Operation.parameterLists]) hp))
  refine ⟨r, e, x, p, hr, he, hx, hp, hlength, hnamed, fun listed hvalues => ?_⟩
  have hlast : ∃ last, p.enumChain.getLast? = some (some last) := by
    have hend := congrArg List.getLast? hlisted
    rw [List.getLast?_map] at hend
    obtain ⟨values, hvalues, hsome⟩ := Option.map_eq_some_iff.mp hend
    obtain ⟨last, rfl⟩ := Option.isSome_iff_exists.mp hsome
    exact ⟨last, hvalues⟩
  exact (hnamed 0 listed (by rw [Parameter.enumChain, hvalues]; rfl)).mpr ⟨hlast, .inl rfl⟩

/-- The header lists two values and has no member for them. -/
theorem not_named_orderedPets :
    ∃ r e x response p listed, ofDocument {} (.neutral false) orderedPets = .ok r ∧
      e ∈ r.operations ∧ x ∈ e.2 ∧ response ∈ x.responses ∧ p ∈ response.headers ∧
      p.enumValues = some listed ∧ listed.values.length = 2 ∧ listed.members.length = 0 ∧
      ¬ listed.Named := by
  have hrun : (ofDocument {} (.neutral false) orderedPets).toOption.map
      (fun r => r.operations.flatMap fun e => e.2.flatMap fun x => x.responses.flatMap
        fun response => response.headers.flatMap fun p => p.enumValues.toList.map fun listed =>
          (listed.values.length, listed.members.length)) =
      some [(2, 0)] := by decide +kernel
  obtain ⟨r, hr, hlengths⟩ := Option.map_eq_some_iff.mp hrun
  have hmem := hlengths ▸ List.mem_singleton_self (2, 0)
  simp only [List.mem_flatMap, List.mem_map, Option.mem_toList] at hmem
  obtain ⟨e, he, x, hx, response, hresponse, p, hp, listed, hlisted, hlength⟩ := hmem
  obtain ⟨hvalues, hmembers⟩ := Prod.mk.inj hlength
  refine ⟨r, e, x, response, p, listed, ofDocument_eq_ok hr, he, hx, hresponse, hp, hlisted,
    hvalues, hmembers, ?_⟩
  exact EnumValues.not_named_of_members_eq_nil (List.ne_nil_of_length_pos (by omega))
    (List.eq_nil_of_length_eq_zero hmembers)

end Resolution
end ApiResolution
