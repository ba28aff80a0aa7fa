import ApiResolution.Proofs.Diagnostic
import ApiResolution.Proofs.Property.Types

/-!
The containers of a property. The property of a schema has the containers of the schema down to the
deepest level that is followed, and whatever a container declares follows from its items: its type,
the model at the end of the chain, and the enum that is listed there (`Mirrors`). A schema with more
containers is noted once (`ofKind_recursionLimit_ofSchemaAt`). Pointing the end of such a chain at a
model derives everything again from there (`Mirrors.retype`).
-/

namespace ApiResolution

namespace Schema

/-- The containers of a schema, from the outside in. -/
def containers : Schema → List ContainerKind
  | ⟨_, .array (some items)⟩ => .array :: containers items
  | ⟨_, .array none⟩ => [.array]
  | ⟨_, .map (some value) _ _⟩ => .map :: containers value
  | ⟨_, .map none _ _⟩ => [.map]
  | _ => []

theorem containers_of_contents?_eq_none {s : Schema} (h : s.contents? = none) :
    s.containers = [] := by
  rcases s with ⟨a, shape⟩
  cases shape with
  | array open? => exact absurd h (by simp [contents?])
  | map open? ps rs => exact absurd h (by simp [contents?])
  | _ => rfl

theorem containers_of_contents? {s items : Schema} {kind : ContainerKind}
    (h : s.contents? = some (kind, items)) : s.containers = kind :: items.containers := by
  cases contains_of_contents? h <;> rfl

theorem none_not_mem_containers (s : Schema) : ContainerKind.none ∉ s.containers := by
  fun_induction containers s with
  | case1 a items ih => simpa using ih
  | case2 a => decide
  | case3 a value ps rs ih => simpa using ih
  | case4 a ps rs => decide
  | case5 s => exact List.not_mem_nil

theorem none_not_mem_take_containers (s : Schema) (n : Nat) :
    ContainerKind.none ∉ s.containers.take n :=
  fun hmem => s.none_not_mem_containers (List.mem_of_mem_take hmem)

end Schema

namespace Property

variable {v : Conventions}

/-! ## The kinds of containers -/

/-- The kinds of the levels of a chain, from the outside in. -/
def kinds (p : Property) : List ContainerKind := p.levels.map (·.container)

theorem kinds_eq (p : Property) : p.kinds = p.container :: p.items.elim [] kinds := by
  rcases p with ⟨facts, items⟩
  cases items <;> rfl

theorem container_refresh (v : Conventions) (p : Property) :
    (refresh v p).container = p.container :=
  congrArg (·.2.1) (fixed_refresh v p)

theorem kinds_refresh (v : Conventions) (p : Property) : (refresh v p).kinds = p.kinds := by
  induction p using Property.innermost.induct with
  | case1 facts =>
    have hcontainer := container_refresh v ⟨facts, none⟩
    obtain ⟨facts', heq, -⟩ := refreshLeaf_spec v facts none
    rw [refresh, heq] at hcontainer ⊢
    exact congrArg ([·]) hcontainer
  | case2 facts inner ih =>
    have hcontainer := container_refresh v ⟨facts, some inner⟩
    obtain ⟨facts', heq, -⟩ := around_spec v facts (refresh v inner)
    rw [refresh, heq] at hcontainer ⊢
    rw [kinds_eq, hcontainer, Option.elim_some, ih, kinds_eq ⟨facts, some inner⟩, Option.elim_some]

theorem kinds_mapInnermost {f : Property → Property}
    (hf : ∀ facts, (f ⟨facts, none⟩).kinds = kinds ⟨facts, none⟩) (p : Property) :
    (mapInnermost f p).kinds = p.kinds := by
  induction p using Property.innermost.induct with
  | case1 facts => exact hf facts
  | case2 facts inner ih => exact congrArg (facts.container :: ·) ih

theorem kinds_pointLeaf (v : Conventions) (model : String) (facts : PropertyFacts) :
    (pointLeaf v model ⟨facts, none⟩).kinds = kinds ⟨facts, none⟩ := by
  obtain ⟨facts', heq, hfixed, -⟩ := pointLeaf_spec v model facts none
  rw [heq]
  exact congrArg ([·.2.1]) hfixed

theorem kinds_setType (v : Conventions) (tag : TypeTag) (p : Property) :
    (setType v tag p).kinds = p.kinds := by
  rcases p with ⟨facts, items⟩
  obtain ⟨facts', heq, hfixed, -⟩ := setType_spec v tag facts items
  rw [heq, kinds_eq, kinds_eq ⟨facts, items⟩]
  exact congrArg (·.2.1 :: items.elim [] kinds) hfixed

/-- Flags have no part in the kinds of containers. -/
theorem kinds_setFlags (p : Property) (flags : TypeFlags) :
    ({ p with flags } : Property).kinds = p.kinds := by
  rw [kinds_eq, kinds_eq p]

/-! ## What follows from the items -/

/-- What a container declares follows from its items and from the end of the chain. -/
structure Derived (v : Conventions) (p inner : Property) : Prop where
  datatype : p.datatype = v.containerDeclaration p.container inner.datatype
  complexType : p.complexType = p.innermost.complexType
  isPrimitiveType : p.flags.isPrimitiveType = p.innermost.flags.isPrimitiveType
  datatypeWithEnum : p.datatypeWithEnum =
    if p.innermost.isEnum then v.containerDeclaration p.container inner.datatypeWithEnum
    else p.datatype

theorem derived_around (v : Conventions) (facts : PropertyFacts) {inner : Property}
    (hmodel : itemComplexType v inner = inner.innermost.complexType)
    (hprimitive : itemPrimitive v inner = inner.innermost.flags.isPrimitiveType) :
    Derived v (around v facts inner) inner := by
  unfold around
  dsimp only
  split
  · next henum =>
    exact ⟨rfl, hmodel, hprimitive, (if_pos (c := inner.innermost.isEnum = true) henum).symm⟩
  · next henum =>
    exact ⟨rfl, hmodel, hprimitive, (if_neg (c := inner.innermost.isEnum = true) henum).symm⟩

/-- The end of the chain is marked as primitive exactly if its type name is primitive. -/
def PrimitiveByType (v : Conventions) (p : Property) : Prop :=
  p.innermost.flags.isPrimitiveType = v.isPrimitive p.innermost.baseType

theorem flags_refreshLeaf (v : Conventions) (p : Property) : (refreshLeaf v p).flags = p.flags := by
  unfold refreshLeaf
  split <;> rfl

theorem isPrimitiveType_flags (tag : TypeTag) : tag.flags.isPrimitiveType = false := by
  cases tag <;> rfl

theorem isPrimitiveType_setType (v : Conventions) (tag : TypeTag) (p : Property) :
    (setType v tag p).flags.isPrimitiveType = v.isPrimitive (setType v tag p).baseType := by
  unfold setType
  rw [flags_refreshLeaf, baseType_refreshLeaf]
  dsimp only
  split
  · next hprimitive => exact hprimitive.symm
  · next hprimitive => rw [isPrimitiveType_flags, Bool.eq_false_iff.mpr hprimitive]

/-- A property without items that is given a type, and is marked as an object or not. -/
theorem primitiveByType_setType (v : Conventions) (tag : TypeTag) (facts : PropertyFacts)
    (isObject : Bool) :
    let p := setType v tag ⟨facts, none⟩
    PrimitiveByType v { p with flags := { p.flags with isObject } } := by
  intro p
  have hprimitive : p.flags.isPrimitiveType = v.isPrimitive p.baseType :=
    isPrimitiveType_setType v tag ⟨facts, none⟩
  obtain ⟨facts', heq, -⟩ := setType_spec v tag facts none
  rw [show p = ⟨facts', none⟩ from heq] at hprimitive ⊢
  exact hprimitive

theorem primitiveByType_refresh {p : Property} (h : PrimitiveByType v p) :
    PrimitiveByType v (refresh v p) := by
  rw [PrimitiveByType, innermost_refresh, flags_refreshLeaf, baseType_refreshLeaf]
  exact h

theorem itemPrimitive_eq {inner : Property} (hformed : Formed v inner)
    (hprimitive : PrimitiveByType v inner)
    (hderived : ∀ next, inner.items = some next → Derived v inner next) :
    itemPrimitive v inner = inner.innermost.flags.isPrimitiveType := by
  rcases inner with ⟨facts, items⟩
  cases items with
  | none =>
    have hleaf : isContainer ⟨facts, none⟩ = false := by simp [isContainer, hformed.1]
    rw [itemPrimitive, if_neg (by simp [hleaf])]
    exact hprimitive.symm
  | some next =>
    have hcontainer : isContainer ⟨facts, some next⟩ = true := by simp [isContainer, hformed.1]
    rw [itemPrimitive, if_pos hcontainer]
    exact (hderived next rfl).isPrimitiveType

/-- In a refreshed chain, what every container declares follows from its items. -/
theorem derived_refresh {p : Property} (hformed : Formed v p) (hprimitive : PrimitiveByType v p) :
    ∀ q ∈ (refresh v p).levels, ∀ inner, q.items = some inner → Derived v q inner := by
  induction p using Property.innermost.induct with
  | case1 facts =>
    obtain ⟨facts', heq, -⟩ := refreshLeaf_spec v facts none
    rw [refresh, heq, levels, List.forall_mem_singleton]
    exact fun inner hitems => absurd hitems (by simp)
  | case2 facts inner ih =>
    have hinner := ih hformed.2 hprimitive
    have hmodel := itemComplexType_eq (formed_refresh hformed.2)
      (complexType_of_mem_levels_refresh hformed.2)
    have hitem := itemPrimitive_eq (formed_refresh hformed.2)
      (primitiveByType_refresh (p := inner) hprimitive) (hinner _ (mem_levels_self _))
    have houter := derived_around v facts hmodel hitem
    obtain ⟨facts', heq, -⟩ := around_spec v facts (refresh v inner)
    rw [heq] at houter
    rw [refresh, heq, levels, List.forall_mem_cons]
    refine ⟨fun next hitems => ?_, hinner⟩
    obtain rfl := Option.some.inj hitems
    exact houter

/-- A chain as it is built: its types fit together, and what every container declares follows from
its items. -/
structure Coherent (v : Conventions) (p : Property) : Prop where
  formed : Formed v p
  primitive : PrimitiveByType v p
  derived : ∀ q ∈ p.levels, ∀ inner, q.items = some inner → Derived v q inner

theorem coherent_refresh {p : Property} (hformed : Formed v p) (hprimitive : PrimitiveByType v p) :
    Coherent v (refresh v p) :=
  ⟨formed_refresh hformed, primitiveByType_refresh hprimitive, derived_refresh hformed hprimitive⟩

theorem coherent_setType (v : Conventions) (tag : TypeTag) {facts : PropertyFacts}
    (hnone : facts.container = .none) (isObject : Bool) :
    let p := setType v tag ⟨facts, none⟩
    Coherent v { p with flags := { p.flags with isObject } } := by
  intro p
  have hprimitive := primitiveByType_setType v tag facts isObject
  obtain ⟨facts', heq, hfixed, hbase, hcomplex⟩ := setType_spec v tag facts none
  rw [heq] at hprimitive
  rw [show p = ⟨facts', none⟩ from heq]
  refine ⟨⟨(congrArg (·.2.1) hfixed).trans hnone, ?_⟩, hprimitive, ?_⟩
  · rw [hbase]
    exact hcomplex
  · rw [levels, List.forall_mem_singleton]
    exact fun inner hitems => absurd hitems (by simp)

/-! ## The property of a schema -/

/-- The property of a schema at some depth has the containers of the schema that lie above the
ceiling. -/
theorem kinds_ofSchemaAt (c : Context) (depth : Nat) (name : String) (s : Schema) :
    (ofSchemaAt c depth name s).value.kinds =
      s.containers.take (maxDepth + 1 - depth) ++ [.none] := by
  refine ofSchemaAt_induct (P := fun depth _ s built =>
    built.value.kinds = s.containers.take (maxDepth + 1 - depth) ++ [.none]) ?_ ?_ ?_ depth name s
  · intro depth name s hdeep
    rw [Nat.sub_eq_zero_of_le hdeep]
    exact (kinds_setFlags _ _).trans (kinds_setType _ _ _)
  · intro depth name s _ hs
    rw [Schema.containers_of_contents?_eq_none hs, List.take_nil, value_leaf]
    exact (kinds_setFlags _ _).trans (kinds_setType _ _ _)
  · intro depth name s kind items inner built hdeep hs _ hinner hbuilt
    have hlevels : maxDepth + 1 - depth = maxDepth + 1 - (depth + 1) + 1 := by omega
    rw [hbuilt.value, Schema.containers_of_contents? hs, hlevels, List.take_succ_cons,
      List.cons_append, ← hinner]
    exact kinds_refresh _ _

theorem coherent_ofSchemaAt (c : Context) (depth : Nat) (name : String) (s : Schema) :
    Coherent c.conventions (ofSchemaAt c depth name s).value := by
  refine ofSchemaAt_induct (P := fun _ _ _ built => Coherent c.conventions built.value)
    ?_ ?_ ?_ depth name s
  · exact fun _ name s _ => coherent_setType c.conventions .object rfl true
  · intro _ name s _ _
    rw [value_leaf]
    exact coherent_setType c.conventions _ rfl _
  · intro _ name s kind items inner built _ hs _ hinner hbuilt
    have hformed : ∀ facts : PropertyFacts, facts.container = kind →
        Formed c.conventions ⟨facts, some inner.value⟩ := fun facts hkind =>
      ⟨fun hnone => Schema.ne_none_of_contents? hs (hkind.symm.trans hnone), hinner.formed⟩
    rw [hbuilt.value]
    exact coherent_refresh (hformed _ rfl) hinner.primitive

/-! ## The ceiling -/

/-- The report of a schema with more containers than are followed. -/
def tooDeep (place : String) : Diagnostic :=
  ⟨.recursionLimit, place,
    "Container nesting deeper than " ++ toString maxDepth ++ " levels; using object"⟩

theorem ofKind_recursionLimit_typeTag (c : Context) (s : Schema) :
    Note.ofKind .recursionLimit (c.typeTag s).notes = [] := by
  unfold Context.typeTag
  dsimp only
  split
  · split <;> rfl
  · rfl
  · rfl

theorem ofKind_recursionLimit_openItems (name : String) (s : Schema) :
    Note.ofKind .recursionLimit (s.openItems name) = [] := by
  unfold Schema.openItems
  split <;> rfl

/-- A schema is reported once if its containers reach below the ceiling, and not at all
otherwise. -/
theorem ofKind_recursionLimit_ofSchemaAt (c : Context) (depth : Nat) (name : String) (s : Schema) :
    ∃ place, Note.ofKind .recursionLimit (ofSchemaAt c depth name s).notes =
      if maxDepth < depth + s.containers.length then [tooDeep place] else [] := by
  refine ofSchemaAt_induct (P := fun depth _ s built => ∃ place,
    Note.ofKind .recursionLimit built.notes =
      if maxDepth < depth + s.containers.length then [tooDeep place] else []) ?_ ?_ ?_ depth name s
  · intro depth name s hdeep
    exact ⟨name, (if_pos (by omega)).symm⟩
  · intro depth name s hdeep hs
    refine ⟨name, ?_⟩
    rw [Schema.containers_of_contents?_eq_none hs, List.length_nil, Nat.add_zero,
      if_neg hdeep, notes_leaf, ofKind_recursionLimit_typeTag]
  · intro depth name s kind items inner built hdeep hs _ ⟨place, hinner⟩ hbuilt
    refine ⟨place, ?_⟩
    have hlength : depth + s.containers.length = depth + 1 + items.containers.length := by
      rw [Schema.containers_of_contents? hs, List.length_cons]
      omega
    rw [hbuilt.notes, Note.ofKind_append, Note.ofKind_append, ofKind_recursionLimit_typeTag,
      ofKind_recursionLimit_openItems, hinner, hlength]
    rfl

/-! ## Retyping -/

/-- A chain of containers has fitting types once its end is pointed at a model. -/
theorem formed_mapInnermost_pointLeaf {p : Property} {ks : List ContainerKind}
    (hkinds : p.kinds = ks ++ [.none]) (hcontainers : ContainerKind.none ∉ ks) (model : String) :
    Formed v (p.mapInnermost (pointLeaf v model)) := by
  induction p using Property.innermost.induct generalizing ks with
  | case1 facts =>
    rw [kinds_eq, Option.elim_none] at hkinds
    cases ks with
    | nil => exact formed_pointLeaf v model (List.cons.inj hkinds).1
    | cons k ks => exact absurd (List.cons.inj hkinds).2 (by simp)
  | case2 facts inner ih =>
    rw [kinds_eq, Option.elim_some] at hkinds
    cases ks with
    | nil => exact absurd (List.cons.inj hkinds).2 (by simp [kinds_eq])
    | cons k ks =>
      obtain ⟨rfl, hinner⟩ := List.cons.inj hkinds
      rw [List.mem_cons, not_or] at hcontainers
      exact ⟨fun hnone => hcontainers.1 hnone.symm, ih hinner hcontainers.2⟩

theorem primitiveByType_mapInnermost_pointLeaf (v : Conventions) (model : String) (p : Property) :
    PrimitiveByType v (p.mapInnermost (pointLeaf v model)) := by
  induction p using Property.innermost.induct with
  | case1 facts => exact primitiveByType_setType v (.reference model) facts true
  | case2 facts inner ih => exact ih

/-- The chain has the containers of a schema, as deep as they are followed, and what each of them
declares follows from its items. -/
structure Mirrors (v : Conventions) (s : Schema) (p : Property) : Prop where
  kinds : p.kinds = s.containers.take (maxDepth + 1) ++ [.none]
  derived : ∀ q ∈ p.levels, ∀ inner, q.items = some inner → Derived v q inner

theorem Mirrors.retype {s : Schema} {p : Property} (h : Mirrors v s p) (model : String) :
    Mirrors v s (retype v model p) := by
  have hcontainers := s.none_not_mem_take_containers (maxDepth + 1)
  constructor
  · rw [retype_eq, kinds_refresh, kinds_mapInnermost (kinds_pointLeaf v model), h.kinds]
  · exact derived_refresh (formed_mapInnermost_pointLeaf h.kinds hcontainers model)
      (primitiveByType_mapInnermost_pointLeaf v model p)

/-- The property of a schema, under any conventions and in any document, has the containers of the
schema down to the deepest level that is followed, and what each of them declares follows from its
items. A schema with more containers is reported once, and no other is. Pointing the end of such a
chain at a model keeps its containers and derives what they declare again. -/
theorem mirrors_ofSchema (c : Context) (name : String) (s : Schema) :
    Mirrors c.conventions s (ofSchema c name s).value ∧
      (∃ place, ∀ log : Log,
        Diagnostic.ofKind .recursionLimit (log.addAll (ofSchema c name s).notes).entries =
          Diagnostic.ofKind .recursionLimit log.entries ++
            if maxDepth < s.containers.length then [tooDeep place] else []) ∧
      ∀ p, Mirrors c.conventions s p → ∀ model,
        Mirrors c.conventions s (retype c.conventions model p) := by
  refine ⟨⟨kinds_ofSchemaAt c 0 name s, (coherent_ofSchemaAt c 0 name s).derived⟩, ?_,
    fun p hp model => hp.retype model⟩
  obtain ⟨place, hplace⟩ := ofKind_recursionLimit_ofSchemaAt c 0 name s
  rw [Nat.zero_add] at hplace
  refine ⟨place, fun log => ?_⟩
  rw [Log.ofKind_addAll (by decide)]
  exact congrArg _ hplace

/-- Of seventy arrays around a text, those above the ceiling are followed, and pointing the end at a
model keeps them. -/
theorem mirrors_nestedArrays :
    let c : Context := { options := {}, conventions := .neutral false, document := {} }
    let s := Nat.repeat (fun items => .ofShape (.array (some items))) 70 (.scalar .string)
    let p := (ofSchema c "grid" s).value
    Mirrors c.conventions s (retype c.conventions "Cell" p) ∧
      p.kinds = List.replicate 65 .array ++ [.none] := by
  intro c s p
  obtain ⟨hmirrors, -, hretype⟩ := mirrors_ofSchema c "grid" s
  exact ⟨hretype p hmirrors "Cell", hmirrors.kinds⟩

end Property
end ApiResolution
