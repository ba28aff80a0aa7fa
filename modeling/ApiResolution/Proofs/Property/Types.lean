import ApiResolution.Model.Union
import ApiResolution.Proofs.Context
import ApiResolution.Proofs.Conventions
import ApiResolution.Proofs.Property.Contents

/-!
The types along a chain of items. A chain is `Formed` when its containers are those properties that
have items and its end refers to a model exactly under a type name that is not primitive. Refreshing
such a chain makes every level refer to the model of its end (`complexType_of_mem_levels_refresh`).
`built_ofSchema` says what the property of a schema is in these words and where the type of its end
comes from.
-/

namespace ApiResolution

namespace Property

variable {v : Conventions}

/-- The model that a type name refers to: none when it is primitive. -/
def modelOfType (v : Conventions) (typeName : String) : Option String :=
  if v.isPrimitive typeName then none else some typeName

/-- The containers of the chain are the properties with items, and its end refers to the model of
its type. -/
def Formed (v : Conventions) : Property → Prop
  | ⟨facts, none⟩ => facts.container = .none ∧ facts.complexType = modelOfType v facts.baseType
  | ⟨facts, some inner⟩ => facts.container ≠ .none ∧ Formed v inner

/-- What setting types leaves alone. -/
def PropertyFacts.fixed (facts : PropertyFacts) : String × ContainerKind × Option String :=
  (facts.baseName, facts.container, facts.composedModel)

theorem refreshLeaf_spec (v : Conventions) (facts : PropertyFacts) (items : Option Property) :
    ∃ facts' : PropertyFacts, refreshLeaf v ⟨facts, items⟩ = ⟨facts', items⟩ ∧
      PropertyFacts.fixed facts' = PropertyFacts.fixed facts ∧
      facts'.baseType = facts.baseType ∧ facts'.complexType = facts.complexType := by
  unfold refreshLeaf
  split
  · exact ⟨_, rfl, rfl, rfl, rfl⟩
  · exact ⟨_, rfl, rfl, rfl, rfl⟩

theorem baseType_refreshLeaf (v : Conventions) (p : Property) :
    (refreshLeaf v p).baseType = p.baseType := by
  rcases p with ⟨facts, items⟩
  obtain ⟨facts', heq, -, hbase, -⟩ := refreshLeaf_spec v facts items
  rw [heq]
  exact hbase

theorem setType_spec (v : Conventions) (tag : TypeTag) (facts : PropertyFacts)
    (items : Option Property) :
    ∃ facts' : PropertyFacts, setType v tag ⟨facts, items⟩ = ⟨facts', items⟩ ∧
      PropertyFacts.fixed facts' = PropertyFacts.fixed facts ∧
      facts'.baseType = v.typeName tag ∧ facts'.complexType = modelOfType v (v.typeName tag) := by
  obtain ⟨facts', heq, hfixed, hbase, hcomplex⟩ := refreshLeaf_spec v
    { facts with
      flags := if v.isPrimitive (v.typeName tag) then { tag.flags with isPrimitiveType := true }
        else tag.flags
      baseType := v.typeName tag
      datatype := v.typeName tag
      complexType := if v.isPrimitive (v.typeName tag) then none else some (v.typeName tag) } items
  exact ⟨facts', heq, hfixed, hbase, hcomplex⟩

theorem around_spec (v : Conventions) (facts : PropertyFacts) (inner : Property) :
    ∃ facts' : PropertyFacts, around v facts inner = ⟨facts', some inner⟩ ∧
      PropertyFacts.fixed facts' = PropertyFacts.fixed facts ∧
      facts'.complexType = itemComplexType v inner := by
  unfold around
  dsimp only
  split
  · exact ⟨_, rfl, rfl, rfl⟩
  · exact ⟨_, rfl, rfl, rfl⟩

/-! ## Refreshing -/

theorem fixed_refresh (v : Conventions) (p : Property) :
    PropertyFacts.fixed (refresh v p).toPropertyFacts = PropertyFacts.fixed p.toPropertyFacts := by
  rcases p with ⟨facts, items⟩
  cases items with
  | none =>
    obtain ⟨facts', heq, hfixed, -, -⟩ := refreshLeaf_spec v facts none
    rw [refresh, heq, hfixed]
  | some inner =>
    obtain ⟨facts', heq, hfixed, -⟩ := around_spec v facts (refresh v inner)
    rw [refresh, heq, hfixed]

theorem innermost_refresh (v : Conventions) (p : Property) :
    (refresh v p).innermost = refreshLeaf v p.innermost := by
  induction p using Property.innermost.induct with
  | case1 facts =>
    obtain ⟨facts', heq, -⟩ := refreshLeaf_spec v facts none
    rw [refresh, innermost, heq, innermost]
  | case2 facts inner ih =>
    obtain ⟨facts', heq, -⟩ := around_spec v facts (refresh v inner)
    rw [refresh, heq, innermost, ih, innermost]

theorem formed_refresh {p : Property} (h : Formed v p) : Formed v (refresh v p) := by
  induction p using Property.innermost.induct with
  | case1 facts =>
    obtain ⟨facts', heq, hfixed, hbase, hcomplex⟩ := refreshLeaf_spec v facts none
    rw [Formed] at h
    rw [refresh, heq, Formed, hcomplex, hbase]
    exact ⟨(congrArg (·.2.1) hfixed).trans h.1, h.2⟩
  | case2 facts inner ih =>
    obtain ⟨facts', heq, hfixed, -⟩ := around_spec v facts (refresh v inner)
    rw [Formed] at h
    rw [refresh, heq, Formed]
    exact ⟨fun hnone => h.1 ((congrArg (·.2.1) hfixed).symm.trans hnone), ih h.2⟩

theorem mem_levels_self (p : Property) : p ∈ p.levels := by
  rcases p with ⟨facts, items⟩
  cases items <;> exact List.mem_cons_self

theorem itemComplexType_eq {inner : Property} (hf : Formed v inner)
    (hu : ∀ q ∈ inner.levels, q.complexType = inner.innermost.complexType) :
    itemComplexType v inner = inner.innermost.complexType := by
  rcases inner with ⟨facts, items⟩
  cases items with
  | none =>
    rw [Formed] at hf
    have hleaf : isContainer ⟨facts, none⟩ = false := by simp [isContainer, hf.1]
    rw [itemComplexType, hleaf, innermost]
    exact hf.2.symm
  | some inner =>
    rw [Formed] at hf
    have hcontainer : isContainer ⟨facts, some inner⟩ = true := by simp [isContainer, hf.1]
    rw [itemComplexType, if_pos hcontainer]
    exact hu _ (mem_levels_self _)

/-- In a refreshed chain, every level refers to the model of the end. -/
theorem complexType_of_mem_levels_refresh {p : Property} (h : Formed v p) :
    ∀ q ∈ (refresh v p).levels, q.complexType = (refresh v p).innermost.complexType := by
  induction p using Property.innermost.induct with
  | case1 facts =>
    obtain ⟨facts', heq, -⟩ := refreshLeaf_spec v facts none
    rw [refresh, heq, levels, innermost]
    intro q hq
    rw [List.mem_singleton.mp hq]
  | case2 facts inner ih =>
    rw [Formed] at h
    have hinner := ih h.2
    obtain ⟨facts', heq, -, hcomplex⟩ := around_spec v facts (refresh v inner)
    rw [refresh, heq, levels, innermost]
    intro q hq
    rcases List.mem_cons.mp hq with rfl | hq
    · exact hcomplex.trans (itemComplexType_eq (formed_refresh h.2) hinner)
    · exact hinner q hq

/-! ## Retyping -/

theorem innermost_items (p : Property) : p.innermost.items = none := by
  induction p using Property.innermost.induct with
  | case1 facts => rfl
  | case2 facts inner ih => exact ih

theorem innermost_mapInnermost (f : Property → Property) (p : Property) :
    (mapInnermost f p).innermost = (f p.innermost).innermost := by
  induction p using Property.innermost.induct with
  | case1 facts => rfl
  | case2 facts inner ih => exact ih

theorem fixed_mapInnermost {f : Property → Property}
    (hf : ∀ q, PropertyFacts.fixed (f q).toPropertyFacts = PropertyFacts.fixed q.toPropertyFacts)
    (p : Property) :
    PropertyFacts.fixed (mapInnermost f p).toPropertyFacts =
      PropertyFacts.fixed p.toPropertyFacts := by
  rcases p with ⟨facts, items⟩
  cases items with
  | none => exact hf _
  | some inner => rfl

theorem formed_mapInnermost {f : Property → Property}
    (hf : ∀ facts, facts.container = .none → Formed v (f ⟨facts, none⟩)) {p : Property}
    (h : Formed v p) : Formed v (mapInnermost f p) := by
  induction p using Property.innermost.induct with
  | case1 facts => exact hf facts h.1
  | case2 facts inner ih => exact ⟨h.1, ih h.2⟩

/-- The end of a chain that is pointed at a model. -/
def pointLeaf (v : Conventions) (model : String) (leaf : Property) : Property :=
  let typed := setType v (.reference model) leaf
  { typed with flags := { typed.flags with isObject := true } }

theorem retype_eq (v : Conventions) (model : String) (p : Property) :
    retype v model p = refresh v (p.mapInnermost (pointLeaf v model)) := rfl

theorem pointLeaf_spec (v : Conventions) (model : String) (facts : PropertyFacts)
    (items : Option Property) :
    ∃ facts' : PropertyFacts, pointLeaf v model ⟨facts, items⟩ = ⟨facts', items⟩ ∧
      PropertyFacts.fixed facts' = PropertyFacts.fixed facts ∧
      facts'.baseType = v.typeName (.reference model) ∧
      facts'.complexType = modelOfType v (v.typeName (.reference model)) := by
  obtain ⟨facts', heq, hfixed, hbase, hcomplex⟩ := setType_spec v (.reference model) facts items
  unfold pointLeaf
  rw [heq]
  exact ⟨_, rfl, hfixed, hbase, hcomplex⟩

theorem fixed_retype (v : Conventions) (model : String) (p : Property) :
    PropertyFacts.fixed (retype v model p).toPropertyFacts =
      PropertyFacts.fixed p.toPropertyFacts := by
  rw [retype_eq, fixed_refresh, fixed_mapInnermost]
  rintro ⟨facts, items⟩
  obtain ⟨facts', heq, hfixed, -⟩ := pointLeaf_spec v model facts items
  rw [heq]
  exact hfixed

/-- A retyped chain ends in the type of the model. -/
theorem innermost_retype (v : Conventions) (model : String) (p : Property) :
    (retype v model p).innermost.baseType = v.typeName (.reference model) ∧
      (retype v model p).innermost.complexType =
        modelOfType v (v.typeName (.reference model)) := by
  have hitems := innermost_items p
  rcases hp : p.innermost with ⟨facts, items⟩
  obtain rfl : items = none := by rwa [hp] at hitems
  obtain ⟨facts', heq, -, hbase, hcomplex⟩ := pointLeaf_spec v model facts none
  obtain ⟨facts'', heq', -, hbase', hcomplex'⟩ := refreshLeaf_spec v facts' none
  rw [retype_eq, innermost_refresh, innermost_mapInnermost, hp, heq, innermost, heq']
  exact ⟨hbase'.trans hbase, hcomplex'.trans hcomplex⟩

theorem formed_pointLeaf (v : Conventions) (model : String) {facts : PropertyFacts}
    (hnone : facts.container = .none) : Formed v (pointLeaf v model ⟨facts, none⟩) := by
  obtain ⟨facts', heq, hfixed, hbase, hcomplex⟩ := pointLeaf_spec v model facts none
  rw [heq, Formed, hbase]
  exact ⟨(congrArg (·.2.1) hfixed).trans hnone, hcomplex⟩

theorem complexType_of_mem_levels_retype {p : Property} (model : String) (h : Formed v p) :
    ∀ q ∈ (retype v model p).levels,
      q.complexType = modelOfType v (v.typeName (.reference model)) := by
  have hpoint := formed_mapInnermost (fun _ hnone => formed_pointLeaf v model hnone) h
  intro q hq
  rw [← (innermost_retype v model p).2]
  exact complexType_of_mem_levels_refresh hpoint q hq

/-! ## Unions -/

/-- Chains that refer to the same models level by level have levels that refer to the same ones. -/
theorem exists_level_of_complexTypes_eq {p p' : Property}
    (h : p.levels.map (·.complexType) = p'.levels.map (·.complexType)) {q : Property}
    (hq : q ∈ p.levels) : ∃ q' ∈ p'.levels, q'.complexType = q.complexType := by
  have hmem : q.complexType ∈ p'.levels.map (·.complexType) := by
    rw [← h]
    exact List.mem_map_of_mem hq
  exact List.mem_map.mp hmem

theorem complexTypes_congr {facts facts' : PropertyFacts} (items : Option Property)
    (h : facts'.complexType = facts.complexType) :
    (levels ⟨facts', items⟩).map (·.complexType) = (levels ⟨facts, items⟩).map (·.complexType) := by
  cases items with
  | none => rw [levels, levels, List.map_singleton, List.map_singleton, h]
  | some inner => rw [levels, levels, List.map_cons, List.map_cons, h]

theorem innermost_baseType_congr {facts facts' : PropertyFacts} (items : Option Property)
    (h : facts'.baseType = facts.baseType) :
    (innermost ⟨facts', items⟩).baseType = (innermost ⟨facts, items⟩).baseType := by
  cases items with
  | none => exact h
  | some inner => rfl

/-- Whether a member is required has no effect on its types. -/
theorem setRequired_spec (v : Conventions) (p : Property) (required : Bool) :
    ({ p with required } : Property).levels.map (·.complexType) =
        p.levels.map (·.complexType) ∧
      (Formed v p → Formed v { p with required }) := by
  rcases p with ⟨facts, items⟩
  refine ⟨complexTypes_congr items rfl, ?_⟩
  cases items <;> exact id

/-- A property that stands for a union bears its name, and its end has the type of the model. -/
theorem toUnion_some_spec (v : Conventions) (p : Property) (u : Model) :
    (toUnion v p (some u)).baseName = p.baseName ∧
      (toUnion v p (some u)).composedModel = some u.name ∧
      (toUnion v p (some u)).innermost.baseType = v.typeName (.reference u.className) ∧
      (Formed v p → ∀ q ∈ (toUnion v p (some u)).levels,
        q.complexType = modelOfType v (v.typeName (.reference u.className))) := by
  have hfixed := fixed_retype v u.className p
  have hbase := (innermost_retype v u.className p).1
  have hlevels := complexType_of_mem_levels_retype (v := v) (p := p) u.className
  have hunion : toUnion v p (some u) =
      { retype v u.className p with composedModel := some u.name } := rfl
  rw [hunion]
  generalize retype v u.className p = q at hfixed hbase hlevels ⊢
  rcases q with ⟨facts, items⟩
  have hend : (innermost ⟨{ facts with composedModel := some u.name }, items⟩).baseType =
      (innermost ⟨facts, items⟩).baseType := innermost_baseType_congr items rfl
  refine ⟨congrArg (·.1) hfixed, rfl, hend.trans hbase, ?_⟩
  intro hp q hq
  have hcongr : (levels ⟨{ facts with composedModel := some u.name }, items⟩).map
      (·.complexType) = (levels ⟨facts, items⟩).map (·.complexType) :=
    complexTypes_congr items rfl
  obtain ⟨q', hq', heq⟩ := exists_level_of_complexTypes_eq hcongr hq
  exact heq.symm.trans (hlevels hp q' hq')

/-! ## The property of a schema -/

/-- The type that a schema has when it is seen through a name that is only another word for it. -/
def seenTag (c : Context) (s : Schema) : TypeTag :=
  ((s.typeTag c.self).reference?.bind c.alias?).getD (s.typeTag c.self)

theorem seenTag_of_isPlain {c : Context} {s : Schema} (h : (s.typeTag c.self).isPlain = true) :
    seenTag c s = s.typeTag c.self := by
  rw [seenTag, TypeTag.reference?_of_isPlain h]
  rfl

/-- A reference to another word for a type is seen as that type. -/
theorem seenTag_of_alias? {c : Context} {s : Schema} {word : String} {tag : TypeTag}
    (hs : s.typeTag c.self = .reference word) (h : c.alias? word = some tag) :
    seenTag c s = tag := by
  rw [seenTag, hs, TypeTag.reference?, Option.bind_some, h, Option.getD_some]

/-- What is known of the property of a schema: its types fit together, and the type of its end is
plain or that of the schema at the end. -/
structure Built (c : Context) (name : String) (s : Schema) (built : Noted Property) : Prop where
  baseName : built.value.baseName = name
  composedModel : built.value.composedModel = none
  formed : Formed c.conventions built.value
  uniform : ∀ q ∈ built.value.levels, q.complexType = built.value.innermost.complexType
  leafTag : ∃ tag, built.value.innermost.baseType = c.conventions.typeName tag ∧
    (tag.isPlain = true ∨ tag = seenTag c s.innermost ∧ s.innermost.isArray = false ∧
      s.innermost.isMap = false ∧ (c.typeTag s.innermost).notes ⊆ built.notes)

theorem tag_start (c : Context) (name : String) (s : Schema) :
    (start c name s).value.1 = seenTag c s := by
  unfold start seenTag
  simp only [Noted.value_bind, Context.value_typeTag, Noted.value_pure]

theorem fixed_start (c : Context) (name : String) (s : Schema) :
    PropertyFacts.fixed (start c name s).value.2 = (name, .none, none) := rfl

/-- A property without items that was given a type. -/
theorem built_of_setType {c : Context} {name : String} {s : Schema} {built : Noted Property}
    (tag : TypeTag) (facts : PropertyFacts) (flags : TypeFlags)
    (hfacts : PropertyFacts.fixed facts = (name, .none, none))
    (hvalue : built.value = { setType c.conventions tag ⟨facts, none⟩ with flags })
    (htag : tag.isPlain = true ∨ tag = seenTag c s.innermost ∧ s.innermost.isArray = false ∧
      s.innermost.isMap = false ∧ (c.typeTag s.innermost).notes ⊆ built.notes) :
    Built c name s built := by
  obtain ⟨facts', heq, hfixed, hbase, hcomplex⟩ := setType_spec c.conventions tag facts none
  have h := hfixed.trans hfacts
  rw [heq] at hvalue
  constructor
  · rw [hvalue]
    exact congrArg (·.1) h
  · rw [hvalue]
    exact congrArg (·.2.2) h
  · rw [hvalue, Formed]
    exact ⟨congrArg (·.2.1) h, by rw [hcomplex, hbase]⟩
  · rw [hvalue, levels, innermost]
    intro q hq
    rw [List.mem_singleton.mp hq]
  · rw [hvalue, innermost]
    exact ⟨tag, hbase, htag⟩

theorem built_cutOff (c : Context) (name : String) (s : Schema) :
    Built c name s (cutOff c name s) :=
  built_of_setType .object (annotated c.conventions name s) _ rfl rfl (.inl rfl)

theorem value_leaf (c : Context) (name : String) (s : Schema) :
    (leaf c name s).value =
      let p := setType c.conventions (seenTag c s) ⟨(start c name s).value.2, none⟩
      { p with flags := { p.flags with isObject := isObjectShaped c s (seenTag c s) } } := by
  unfold leaf
  simp only [Noted.value_bind, Noted.value_pure, tag_start]

theorem notes_leaf (c : Context) (name : String) (s : Schema) :
    (leaf c name s).notes = (c.typeTag s).notes := by
  unfold leaf
  simp only [Noted.notes_bind, Noted.notes_pure, notes_start, List.append_nil]

theorem built_leaf (c : Context) (name : String) {s : Schema} (hs : s.contents? = none) :
    Built c name s (leaf c name s) := by
  obtain ⟨ha, hm⟩ := s.contents?_eq_none_iff.mp hs
  have hend : s.innermost = s := by
    rcases s with ⟨a, shape⟩
    cases shape with
    | array items => exact absurd ha (by simp [Schema.isArray])
    | map value ps rs => exact absurd hm (by simp [Schema.isMap])
    | _ => rfl
  refine built_of_setType (seenTag c s) (start c name s).value.2 _ (fixed_start c name s)
    (value_leaf c name s) (.inr ?_)
  rw [hend, notes_leaf]
  exact ⟨rfl, ha, hm, List.Subset.refl _⟩

theorem wrap_spec (v : Conventions) (kind : ContainerKind) (facts : PropertyFacts)
    (inner : Property) :
    ∃ facts', wrap v kind facts inner = refresh v ⟨facts', some inner⟩ ∧
      PropertyFacts.fixed facts' = (facts.baseName, kind, facts.composedModel) :=
  ⟨_, rfl, rfl⟩

/-- A container around the property of its items. -/
theorem built_wrap {c : Context} {name inner : String} {s t : Schema} {item built : Noted Property}
    {facts : PropertyFacts} (kind : ContainerKind) (hkind : kind ≠ .none)
    (hfacts : PropertyFacts.fixed facts = (name, .none, none))
    (hst : s.innermost = t.innermost ∨ (seenTag c t.innermost).isPlain = true)
    (hi : Built c inner t item) (hvalue : built.value = wrap c.conventions kind facts item.value)
    (hnotes : item.notes ⊆ built.notes) : Built c name s built := by
  obtain ⟨facts', hwrap, hfixed⟩ := wrap_spec c.conventions kind facts item.value
  rw [hwrap] at hvalue
  have hname : facts.baseName = name := congrArg (·.1) hfacts
  have hcomposed : facts.composedModel = none := congrArg (·.2.2) hfacts
  rw [hname, hcomposed] at hfixed
  have hformed : Formed c.conventions ⟨facts', some item.value⟩ :=
    ⟨fun h => hkind ((congrArg (·.2.1) hfixed).symm.trans h), hi.formed⟩
  have hrefresh := (fixed_refresh c.conventions ⟨facts', some item.value⟩).trans hfixed
  constructor
  · rw [hvalue]
    exact congrArg (·.1) hrefresh
  · rw [hvalue]
    exact congrArg (·.2.2) hrefresh
  · rw [hvalue]
    exact formed_refresh hformed
  · rw [hvalue]
    exact complexType_of_mem_levels_refresh hformed
  · obtain ⟨tag, hbase, htag⟩ := hi.leafTag
    refine ⟨tag, ?_, ?_⟩
    · have hinner : (refresh c.conventions ⟨facts', some item.value⟩).innermost =
          refreshLeaf c.conventions item.value.innermost := innermost_refresh _ _
      rw [hvalue, hinner, baseType_refreshLeaf, hbase]
    · rcases hst with hst | hplain
      · rw [hst]
        exact htag.imp id fun h => ⟨h.1, h.2.1, h.2.2.1, fun n hn => hnotes (h.2.2.2 hn)⟩
      · exact .inl (htag.elim id fun h => h.1 ▸ hplain)

/-- What holds of schemas that are cut off and of schemas that are no containers, and what a
container keeps of its items, holds of the property of every schema. -/
theorem ofSchemaAt_induction {c : Context} {P : Property → Prop}
    (hcutOff : ∀ name s, P (cutOff c name s).value) (hleaf : ∀ name s, P (leaf c name s).value)
    (hwrap : ∀ kind name s inner, P inner →
      P (wrap c.conventions kind (start c name s).value.2 inner))
    (depth : Nat) (name : String) (s : Schema) : P (ofSchemaAt c depth name s).value := by
  refine ofSchemaAt_induct (P := fun _ _ _ built => P built.value)
    (fun _ name s _ => hcutOff name s) (fun _ name s _ _ => hleaf name s) ?_ depth name s
  intro depth name s kind items inner built _ _ _ hinner hbuilt
  rw [hbuilt.value]
  exact hwrap kind name s inner.value hinner

/-- The end of a container is the end of its items, unless these are left open. -/
theorem innermost_of_contents? (c : Context) {s items : Schema} {kind : ContainerKind}
    (h : s.contents? = some (kind, items)) :
    s.innermost = items.innermost ∨ (seenTag c items.innermost).isPlain = true := by
  cases Schema.contains_of_contents? h with
  | array a items => exact .inl rfl
  | openArray a => exact .inr rfl
  | map a value ps rs => exact .inl rfl
  | openMap a ps rs => exact .inr rfl

/-- The property of a schema at some depth has fitting types. -/
theorem built_ofSchemaAt (c : Context) (depth : Nat) (name : String) (s : Schema) :
    Built c name s (ofSchemaAt c depth name s) := by
  refine ofSchemaAt_induct (P := fun _ name s built => Built c name s built)
    (fun _ name s _ => built_cutOff c name s) (fun _ name s _ hs => built_leaf c name hs) ?_
    depth name s
  intro depth name s kind items inner built _ hs _ hinner hbuilt
  refine built_wrap kind (Schema.ne_none_of_contents? hs) (fixed_start c name s)
    (innermost_of_contents? c hs) hinner hbuilt.value ?_
  rw [hbuilt.notes]
  exact List.subset_append_right _ _

/-- The property of a schema has fitting types. -/
theorem built_ofSchema (c : Context) (name : String) (s : Schema) :
    Built c name s (ofSchema c name s) :=
  built_ofSchemaAt c 0 name s

/-! ## The names of types -/

theorem complexType_innermost {p : Property} (h : Formed v p) :
    p.innermost.complexType = modelOfType v p.innermost.baseType := by
  induction p using Property.innermost.induct with
  | case1 facts => exact h.2
  | case2 facts inner ih => exact ih h.2

/-- A schema that is no container is seen as plain or under the name that it is tagged with. -/
theorem seenTag_isPlain_or_reference (c : Context) {s : Schema} (ha : s.isArray = false)
    (hm : s.isMap = false) :
    (seenTag c s).isPlain = true ∨
      ∃ name, s.typeTag c.self = .reference name ∧ seenTag c s = .reference name := by
  rcases Schema.isPlain_or_reference c.self ha hm with hplain | ⟨name, hname⟩
  · exact .inl (seenTag_of_isPlain hplain ▸ hplain)
  · unfold seenTag
    rw [hname]
    cases hl : c.alias? name with
    | none => exact .inr ⟨name, rfl, by simp [TypeTag.reference?, hl]⟩
    | some tag => exact .inl (by simpa [TypeTag.reference?, hl] using Context.isPlain_of_alias? hl)

/-- By the neutral conventions every level of the property of a schema refers to no model but that
of the name with which the schema at the end is tagged. -/
theorem Built.reference_of_complexType {c : Context} {name : String} {s : Schema}
    {built : Noted Property} (hb : Built c name s built) {unicode : Bool}
    (hv : c.conventions = .neutral unicode) {q : Property} (hq : q ∈ built.value.levels)
    {t : String} (ht : q.complexType = some t) :
    ∃ model, s.innermost.typeTag c.self = .reference model ∧ c.conventions.modelName model = t ∧
      (c.typeTag s.innermost).notes ⊆ built.notes := by
  obtain ⟨tag, hbase, htag⟩ := hb.leafTag
  rw [hb.uniform q hq, complexType_innermost hb.formed, hbase, modelOfType] at ht
  have hnot : tag.isPlain ≠ true := by
    intro hplain
    rw [hv, if_pos (Conventions.isPrimitive_neutral unicode hplain)] at ht
    exact absurd ht (by simp)
  obtain ⟨hseen, ha, hm, hnotes⟩ := htag.resolve_left hnot
  rcases seenTag_isPlain_or_reference c ha hm with hplain | ⟨model, hmodel, href⟩
  · exact absurd (hseen ▸ hplain) hnot
  · refine ⟨model, hmodel, ?_, hnotes⟩
    split at ht
    · exact absurd ht (by simp)
    · rw [← Option.some.inj ht, hseen, href, hv, Conventions.typeName_reference_neutral]

end Property
end ApiResolution
