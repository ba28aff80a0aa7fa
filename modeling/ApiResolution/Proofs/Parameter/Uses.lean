import ApiResolution.Proofs.Operation.Contents
import ApiResolution.Proofs.Property.Aliases

/-!
The models that a parameter uses. A parameter is built from a property (`Parameter.BuiltFrom`) and
uses the models to which that refers. All levels of the property refer to the model of the type at
its end, and the parameter keeps that type, so by the neutral conventions a parameter uses the same
models whatever it is taken to be built from (`Parameter.BuiltFrom.uses_iff`), and those are what it
comes with when it is made (`Parameter.exact_ofDeclaration`, `Parameter.exact_ofBody`).
-/

namespace ApiResolution

namespace Property

variable {v : Conventions}

/-- Some level of a chain of items refers to a model whose name is not that of a primitive type. -/
def RefersTo (v : Conventions) (q : Property) (name : String) : Prop :=
  ∃ level ∈ q.levels, level.complexType = some name ∧ v.isPrimitive name = false

theorem mem_imports_iff {q : Property} {name : String} :
    name ∈ q.imports v ↔ q.RefersTo v name := by
  unfold imports RefersTo
  rw [List.mem_filter, List.mem_filterMap, Bool.not_eq_true']
  constructor
  · rintro ⟨⟨level, hlevel, hcomplex⟩, hprimitive⟩
    exact ⟨level, hlevel, hcomplex, hprimitive⟩
  · rintro ⟨level, hlevel, hcomplex, hprimitive⟩
    exact ⟨⟨level, hlevel, hcomplex⟩, hprimitive⟩

/-- The property of a schema whose members are named if it is an enum. -/
def namedOfSchema (c : Context) (name : String) (s : Schema) : Property :=
  nameIfEnum c.conventions (ofSchema c name s).value

theorem formed_settled (v : Conventions) (p : Property) : Formed v p.settled = Formed v p := by
  induction p using Property.innermost.induct with
  | case1 facts => rfl
  | case2 facts inner ih =>
    rw [settled, Formed, Formed, ih]
    rfl

theorem settled_namedOfSchema (c : Context) (name : String) (s : Schema) :
    (namedOfSchema c name s).settled = (ofSchema c name s).value.settled :=
  settled_nameIfEnum _ _

theorem formed_namedOfSchema (c : Context) (name : String) (s : Schema) :
    Formed c.conventions (namedOfSchema c name s) := by
  unfold namedOfSchema
  rw [apply_nameIfEnum (f := Formed c.conventions) (formed_settled c.conventions)]
  exact (built_ofSchema c name s).formed

/-- Every level of the property of a schema refers to the model of the type at its end. -/
theorem complexType_of_mem_levels_namedOfSchema {c : Context} {name : String} {s : Schema}
    {level : Property} (h : level ∈ (namedOfSchema c name s).levels) :
    level.complexType =
      modelOfType c.conventions (namedOfSchema c name s).innermost.baseType := by
  have hbuilt := built_ofSchema c name s
  have hsettled := settled_namedOfSchema c name s
  have hend : (namedOfSchema c name s).innermost.baseType =
      (ofSchema c name s).value.innermost.baseType := by
    rw [← baseType_settled, ← innermost_settled, hsettled, innermost_settled, baseType_settled]
  obtain ⟨level', hlevel', hcomplex⟩ :=
    exists_level_of_complexTypes_eq (complexTypes_of_settled_eq hsettled) h
  rw [← hcomplex, hbuilt.uniform level' hlevel', complexType_innermost hbuilt.formed, hend]

theorem refersTo_namedOfSchema_iff {c : Context} {name : String} {s : Schema} {model : String} :
    (namedOfSchema c name s).RefersTo c.conventions model ↔
      modelOfType c.conventions (namedOfSchema c name s).innermost.baseType = some model := by
  constructor
  · rintro ⟨level, hlevel, hcomplex, -⟩
    rw [← complexType_of_mem_levels_namedOfSchema hlevel, hcomplex]
  · intro hmodel
    have hself := mem_levels_self (namedOfSchema c name s)
    have hcomplex := (complexType_of_mem_levels_namedOfSchema hself).trans hmodel
    unfold modelOfType at hmodel
    obtain ⟨hprimitive, hname⟩ := Option.ite_none_left_eq_some.mp hmodel
    refine ⟨_, hself, hcomplex, ?_⟩
    rw [← Option.some.inj hname]
    simpa using hprimitive

end Property

/-! ## Parameters -/

/-- The schema that types a declared parameter: an object where none is declared. -/
def ParameterObject.typingSchema (d : ParameterObject) : Schema :=
  (d.effectiveSchema?.map (·.1)).getD .emptyObject

/-- The type at the end of what a parameter holds. -/
def Parameter.endType? (p : Parameter) : Option String :=
  match p.items with
  | some items => some items.innermost.baseType
  | none => p.baseType

/-- A parameter has the type at the end of a property, and comes with the models to which the
property refers. -/
structure Using.Reflects (v : Conventions) (u : Using Parameter) (q : Property) : Prop where
  endType? : u.value.endType? = some q.innermost.baseType
  imports : u.imports = q.imports v

namespace Parameter

/-- A parameter is built from a property: that of the schema of its declaration, or of the body that
it stands for. What is built keeps its property when its name, its mark or whether it is multipart
changes. -/
inductive BuiltFrom (c : Context) : Parameter → Property → Prop
  | declared (d : ParameterObject) :
    BuiltFrom c (ofDeclaration c d).value.value (.namedOfSchema c d.name d.typingSchema)
  | body (body : RequestBodyObject) (contentType : String) {media : MediaTypeObject} {s : Schema}
      (hs : media.schema = some s) :
    BuiltFrom c (ofBody c body contentType media).value.value (.namedOfSchema c (bodyName body) s)
  | hasMore {p : Parameter} {q : Property} (hasMore : Bool) (h : BuiltFrom c p q) :
    BuiltFrom c { p with hasMore } q
  | paramName {p : Parameter} {q : Property} (paramName : String) (h : BuiltFrom c p q) :
    BuiltFrom c { p with paramName } q
  | isMultipart {p : Parameter} {q : Property} (isMultipart : Bool) (h : BuiltFrom c p q) :
    BuiltFrom c { p with isMultipart } q

/-- A parameter uses a model when a property that it is built from refers to it. -/
def Uses (c : Context) (p : Parameter) (model : String) : Prop :=
  ∃ q, p.BuiltFrom c q ∧ q.RefersTo c.conventions model

variable {c : Context} {unicode : Bool} {p : Parameter} {model : String}

theorem finishParameter_of_neutral (hv : c.conventions = .neutral unicode) (p : Parameter) :
    c.conventions.finishParameter p = p := by
  rw [hv]
  rfl

theorem endType?_withType {v : Conventions} {q : Property} (h : Property.Formed v q)
    (p : Parameter) : (withType q p).endType? = some q.innermost.baseType := by
  rcases q with ⟨facts, items⟩
  cases items with
  | some inner => rfl
  | none =>
    have hcomplex : facts.complexType = Property.modelOfType v facts.baseType := h.2
    have hheld : heldType ⟨facts, none⟩ = facts.baseType := by
      show facts.complexType.getD facts.baseType = facts.baseType
      rw [hcomplex, Property.modelOfType]
      split <;> rfl
    exact congrArg some hheld

/-- By the neutral conventions a declared parameter reflects the property of its schema. -/
theorem reflects_ofDeclaration (hv : c.conventions = .neutral unicode) (d : ParameterObject) :
    (ofDeclaration c d).value.Reflects c.conventions
      (.namedOfSchema c d.name d.typingSchema) := by
  -- A declaration without a schema is typed by an object, like one that declares it.
  have hschema : ∀ s contentType, (ofSchema c d s contentType).value.Reflects c.conventions
      (.namedOfSchema c d.name s) := by
    intro s contentType
    refine ⟨?_, rfl⟩
    unfold ofSchema
    simp only [Noted.value_bind, Noted.value_pure, finishParameter_of_neutral hv]
    exact endType?_withType (Property.formed_namedOfSchema c d.name s)
      (declared c.conventions d s contentType)
  unfold ofDeclaration ParameterObject.typingSchema
  cases d.effectiveSchema? with
  | none => exact hschema .emptyObject none
  | some typed => exact hschema typed.1 typed.2

/-- The property of a schema that refers to a model has no items and the type of the model. -/
theorem namedOfSchema_of_bodyModel? (hv : c.conventions = .neutral unicode) {s : Schema}
    {target : String} (h : bodyModel? c s = some target) (name : String) :
    (Property.namedOfSchema c name s).items = none ∧
      (Property.namedOfSchema c name s).baseType = c.conventions.modelName target := by
  obtain ⟨href, halias⟩ := Option.filter_eq_some_iff.mp h
  obtain ⟨⟨written, hwritten⟩, htag⟩ := Context.of_refName? href
  have hnone : c.alias? target = none := by
    simpa [Context.isAlias] using halias
  have hseen : Property.seenTag c s = .reference target := by
    rw [Property.seenTag, htag, TypeTag.reference?, Option.bind_some, hnone, Option.getD_none]
  have hcontents : s.contents? = none := by
    rcases s with ⟨a, shape⟩
    cases shape with
    | reference => rfl
    | _ => exact absurd hwritten (by simp [Schema.refTarget?])
  obtain ⟨facts, hset, -, hbase, -⟩ := Property.setType_spec c.conventions (.reference target)
    (Property.start c name s).value.2 none
  have hleaf : (Property.ofSchema c name s).value.items = none ∧
      (Property.ofSchema c name s).value.baseType = c.conventions.typeName (.reference target) := by
    rw [Property.ofSchema_eq_leaf c name hcontents, Property.value_leaf, hseen, hset]
    exact ⟨rfl, hbase⟩
  have hsettled := Property.settled_namedOfSchema c name s
  have hitems := congrArg (·.items) hsettled
  have hname := congrArg (·.baseType) hsettled
  simp only [Property.settled_eq, hleaf.1, Option.map_none, Option.map_eq_none_iff] at hitems
  simp only [Property.baseType_settled, hleaf.2, hv, Conventions.typeName_reference_neutral]
    at hname
  exact ⟨hitems, by rw [hv, hname]⟩

/-- A body parameter of a schema ends in the type at the end of its property. -/
theorem endType?_withBodyType (hv : c.conventions = .neutral unicode) (name : String) (s : Schema)
    (p : Parameter) :
    (withBodyType c (Property.namedOfSchema c name s) s p).endType? =
      some (Property.namedOfSchema c name s).innermost.baseType := by
  have htyped := endType?_withType (Property.formed_namedOfSchema c name s)
    { p with dataFormat := s.format, nullable := s.nullable }
  unfold withBodyType
  dsimp only
  split
  · next target htarget =>
    -- The type that replaces that of the property is the same one.
    obtain ⟨hitems, hbase⟩ := namedOfSchema_of_bodyModel? hv htarget name
    generalize Property.namedOfSchema c name s = q at hitems hbase
    rcases q with ⟨facts, items⟩
    obtain rfl : items = none := hitems
    exact congrArg some hbase.symm
  · exact htyped

/-- A body with a schema reflects the property of that. -/
theorem reflects_ofBody (hv : c.conventions = .neutral unicode) (body : RequestBodyObject)
    (contentType : String) {media : MediaTypeObject} {s : Schema} (hs : media.schema = some s) :
    (ofBody c body contentType media).value.Reflects c.conventions
      (.namedOfSchema c (bodyName body) s) := by
  unfold ofBody
  rw [hs]
  refine ⟨?_, rfl⟩
  simp only [Noted.value_bind, Noted.value_pure, finishParameter_of_neutral hv]
  exact endType?_withBodyType hv (bodyName body) s _

/-- A body without a schema is an object and comes with no model. -/
theorem ofBody_of_schema_none (hv : c.conventions = .neutral unicode) (body : RequestBodyObject)
    (contentType : String) {media : MediaTypeObject} (hs : media.schema = none) :
    (ofBody c body contentType media).value.value.endType? = some "object" ∧
      (ofBody c body contentType media).value.imports = [] := by
  unfold ofBody
  rw [hs]
  refine ⟨?_, rfl⟩
  simp only [Noted.value_bind, Noted.value_pure, hv]
  rfl

/-- What a parameter is built from refers to the model of the type at the end of the parameter. -/
theorem BuiltFrom.refersTo_iff {q : Property} (hv : c.conventions = .neutral unicode)
    (h : p.BuiltFrom c q) :
    q.RefersTo c.conventions model ↔
      p.endType?.bind (Property.modelOfType c.conventions) = some model := by
  induction h with
  | declared d =>
    rw [(reflects_ofDeclaration hv d).endType?, Option.bind_some]
    exact Property.refersTo_namedOfSchema_iff
  | body body contentType hs =>
    rw [(reflects_ofBody hv body contentType hs).endType?, Option.bind_some]
    exact Property.refersTo_namedOfSchema_iff
  | hasMore _ _ ih => exact ih
  | paramName _ _ ih => exact ih
  | isMultipart _ _ ih => exact ih

/-- So whatever it is built from, it uses that model and no other. -/
theorem BuiltFrom.uses_iff {q : Property} (hv : c.conventions = .neutral unicode)
    (h : p.BuiltFrom c q) : p.Uses c model ↔ q.RefersTo c.conventions model := by
  constructor
  · rintro ⟨q', hq', hmodel⟩
    exact (h.refersTo_iff hv).mpr ((hq'.refersTo_iff hv).mp hmodel)
  · exact fun hmodel => ⟨q, h, hmodel⟩

theorem uses_hasMore_iff {hasMore : Bool} :
    ({ p with hasMore } : Parameter).Uses c model ↔ p.Uses c model :=
  exists_congr fun _ => and_congr_left fun _ => ⟨.hasMore p.hasMore, .hasMore hasMore⟩

theorem uses_paramName_iff {paramName : String} :
    ({ p with paramName } : Parameter).Uses c model ↔ p.Uses c model :=
  exists_congr fun _ => and_congr_left fun _ => ⟨.paramName p.paramName, .paramName paramName⟩

theorem uses_isMultipart_iff {isMultipart : Bool} :
    ({ p with isMultipart } : Parameter).Uses c model ↔ p.Uses c model :=
  exists_congr fun _ => and_congr_left fun _ =>
    ⟨.isMultipart p.isMultipart, .isMultipart isMultipart⟩

/-- A copy of a parameter uses the same models. -/
theorem uses_of_bare_eq {q : Parameter} (h : q.bare = p.bare) :
    q.Uses c model ↔ p.Uses c model := by
  have hbare : ∀ p : Parameter, p.bare.Uses c model ↔ p.Uses c model := fun p =>
    (uses_hasMore_iff (p := { p with paramName := "" })).trans uses_paramName_iff
  rw [← hbare q, h, hbare p]

theorem stable_uses (c : Context) (Q : String → Prop) :
    Stable fun p => ∀ model, p.Uses c model → Q model where
  hasMore _ _ h model hm := h model (uses_hasMore_iff.mp hm)
  paramName _ _ h model hm := h model (uses_paramName_iff.mp hm)
  isMultipart _ _ h model hm := h model (uses_isMultipart_iff.mp hm)

end Parameter

/-! ## What comes with a parameter -/

/-- A parameter comes with exactly the models that it uses. -/
def Using.Exact (c : Context) (u : Using Parameter) : Prop :=
  ∀ model, model ∈ u.imports ↔ u.value.Uses c model

namespace Parameter

variable {c : Context} {unicode : Bool}

/-- A parameter that reflects a property it is built from comes with exactly what it uses. -/
theorem exact_of_reflects (hv : c.conventions = .neutral unicode) {u : Using Parameter}
    {q : Property} (hbuilt : u.value.BuiltFrom c q) (hreflects : u.Reflects c.conventions q) :
    u.Exact c := by
  intro model
  rw [hreflects.imports, Property.mem_imports_iff]
  exact (hbuilt.uses_iff hv).symm

theorem exact_ofDeclaration (hv : c.conventions = .neutral unicode) (d : ParameterObject) :
    (ofDeclaration c d).value.Exact c :=
  exact_of_reflects hv (.declared d) (reflects_ofDeclaration hv d)

theorem exact_ofBody (hv : c.conventions = .neutral unicode) (body : RequestBodyObject)
    (contentType : String) (media : MediaTypeObject) :
    (ofBody c body contentType media).value.Exact c := by
  cases hs : media.schema with
  | some s =>
    exact exact_of_reflects hv (.body body contentType hs) (reflects_ofBody hv body contentType hs)
  | none =>
    obtain ⟨hend, himports⟩ := ofBody_of_schema_none hv body contentType hs
    have hobject : Property.modelOfType c.conventions "object" = none := by
      rw [hv]
      rfl
    intro model
    rw [himports]
    refine iff_of_false List.not_mem_nil ?_
    rintro ⟨q, hq, hmodel⟩
    have hmodel := (hq.refersTo_iff hv).mp hmodel
    rw [hend, Option.bind_some, hobject] at hmodel
    exact absurd hmodel (by simp)

theorem exact_ofForm (hv : c.conventions = .neutral unicode) {contentType : String}
    {schema : Option Schema} : ∀ u ∈ (ofForm c contentType schema).value, u.Exact c := by
  intro u hu
  unfold ofForm at hu
  split at hu
  · exact absurd hu (by simp)
  · simp only [Noted.value_bind, Noted.value_pure, Noted.value_mapList, List.map_map] at hu
    obtain ⟨e, -, rfl⟩ := List.mem_map.mp hu
    intro model
    exact (exact_ofDeclaration hv _ model).trans uses_isMultipart_iff.symm

end Parameter
end ApiResolution
