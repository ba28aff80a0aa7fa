import ApiResolution.Proofs.Property.Containers
import ApiResolution.Proofs.Property.Enums

/-!
The name of an enum and the type that mentions it. By the neutral conventions every level of a chain
names its enum after itself, and the declared type of a container mentions the enum of the end of
the chain. The end is named after the last name that some container on the way gives to its items,
and after the chain itself if none gives any (`name_innermost_ofSchemaAt`). So the two agree exactly
if these names make the same enum (`enumName_declared_iff`).
-/

namespace ApiResolution

namespace Schema

/-- The names that the containers of a schema give to their items, from the outside in. -/
def itemNames : Schema → List String
  | ⟨a, .array (some items)⟩ =>
    (contentsName? ⟨a, .array (some items)⟩).toList ++ itemNames items
  | ⟨a, .map (some value) ps rs⟩ =>
    (contentsName? ⟨a, .map (some value) ps rs⟩).toList ++ itemNames value
  | s => s.contentsName?.toList

theorem itemNames_of_contents? {s items : Schema} {kind : ContainerKind}
    (h : s.contents? = some (kind, items)) :
    s.itemNames = s.contentsName?.toList ++ items.itemNames := by
  cases contains_of_contents? h with
  | array a items => rfl
  | openArray a => exact (List.append_nil _).symm
  | map a value ps rs => rfl
  | openMap a ps rs => exact (List.append_nil _).symm

theorem itemNames_of_contents?_eq_none {s : Schema} (h : s.contents? = none) :
    s.itemNames = [] := by
  rcases s with ⟨a, shape⟩
  cases shape with
  | array open? => exact absurd h (by simp [contents?])
  | map open? ps rs => exact absurd h (by simp [contents?])
  | _ => rfl

end Schema

namespace Property

/-! ## The names of the levels -/

theorem name_refreshLeaf (v : Conventions) (p : Property) : (refreshLeaf v p).name = p.name := by
  unfold refreshLeaf
  split <;> rfl

theorem isEnum_refreshLeaf (v : Conventions) (p : Property) :
    (refreshLeaf v p).isEnum = p.isEnum :=
  congrArg (·.2.1) (kept_refreshLeaf v p)

theorem name_setType (v : Conventions) (tag : TypeTag) (p : Property) :
    (setType v tag p).name = p.name :=
  name_refreshLeaf v _

theorem name_around (v : Conventions) (facts : PropertyFacts) (inner : Property) :
    (around v facts inner).name = facts.name := by
  unfold around
  dsimp only
  split <;> rfl

theorem name_refresh (v : Conventions) (p : Property) : (refresh v p).name = p.name := by
  rcases p with ⟨facts, items⟩
  cases items with
  | none => exact name_refreshLeaf v _
  | some inner => exact name_around v facts _

/-- The property of a schema has the member name of its name. -/
theorem name_ofSchemaAt (c : Context) (depth : Nat) (name : String) (s : Schema) :
    (ofSchemaAt c depth name s).value.name = c.conventions.varName name := by
  refine ofSchemaAt_induct (P := fun _ name _ built =>
    built.value.name = c.conventions.varName name) ?_ ?_ ?_ depth name s
  · exact fun _ name s _ => name_setType _ _ _
  · intro _ name s _ _
    rw [value_leaf]
    exact name_setType _ _ _
  · intro _ name s kind items inner built _ _ _ _ hbuilt
    rw [hbuilt.value]
    exact name_refresh _ _

theorem innermost_eq_self {p : Property} (h : p.items = none) : p.innermost = p := by
  rcases p with ⟨facts, items⟩
  rw [show items = none from h]
  rfl

theorem isEnum_innermost_refresh (v : Conventions) (p : Property) :
    (refresh v p).innermost.isEnum = p.innermost.isEnum := by
  rw [innermost_refresh, isEnum_refreshLeaf]

theorem name_innermost_refresh (v : Conventions) (p : Property) :
    (refresh v p).innermost.name = p.innermost.name := by
  rw [innermost_refresh, name_refreshLeaf]

/-- A schema that is cut off lists no values. -/
theorem isEnum_innermost_cutOff (c : Context) (name : String) (s : Schema) :
    (cutOff c name s).value.innermost.isEnum = false := by
  have hkept := kept_cutOff c name s
  simp only [kept, Prod.mk.injEq] at hkept
  rw [innermost_eq_self hkept.2.2.2, hkept.2.1]

/-- The end of a chain that lists values is named after the last name that is given to items. -/
theorem name_innermost_ofSchemaAt {c : Context} {unicode : Bool}
    (hv : c.conventions = .neutral unicode) (depth : Nat) (name : String) (s : Schema)
    (henum : (ofSchemaAt c depth name s).value.innermost.isEnum = true) :
    (ofSchemaAt c depth name s).value.innermost.name =
      c.conventions.varName (s.itemNames.getLastD name) := by
  revert henum
  refine ofSchemaAt_induct (P := fun _ name s built => built.value.innermost.isEnum = true →
    built.value.innermost.name = c.conventions.varName (s.itemNames.getLastD name))
    ?_ ?_ ?_ depth name s
  · intro _ name s _ henum
    rw [isEnum_innermost_cutOff] at henum
    exact absurd henum (by simp)
  · intro _ name s _ hs _
    have hkept := kept_leaf c name s
    simp only [kept, Prod.mk.injEq] at hkept
    rw [innermost_eq_self hkept.2.2.2, Schema.itemNames_of_contents?_eq_none hs, value_leaf]
    exact name_setType _ _ _
  · intro _ name s kind items inner built _ hs _ hinner hbuilt henum
    have hend : built.value.innermost.name = inner.value.innermost.name := by
      rw [hbuilt.value]
      exact name_innermost_refresh c.conventions ⟨_, some inner.value⟩
    have hlists : inner.value.innermost.isEnum = true := by
      rw [← henum, hbuilt.value]
      exact (isEnum_innermost_refresh c.conventions ⟨_, some inner.value⟩).symm
    rw [hend, hinner hlists, Schema.itemNames_of_contents? hs]
    -- The items are named by the container or after it, unless a container further in names them.
    cases s.contentsName? with
    | none =>
      cases items.itemNames with
      | nil =>
        rw [hv]
        exact Conventions.varName_varName_neutral unicode name
      | cons first rest => rfl
    | some given => exact congrArg _ (List.getLastD_cons ..).symm

/-! ## The names of enums -/

/-- Every level names its enum after itself, and the end is declared as its enum. -/
structure EnumNamed (v : Conventions) (p : Property) : Prop where
  levels : ∀ q ∈ p.levels, q.enumName = some (v.enumName q)
  innermost : p.innermost.datatypeWithEnum = v.enumName p.innermost

/-- By the neutral conventions only the name of a property counts for the name of its enum. -/
theorem enumName_congr (unicode : Bool) {p q : Property} (h : p.name = q.name) :
    (Conventions.neutral unicode).enumName p = (Conventions.neutral unicode).enumName q := by
  change Identifier.capitalize p.name ++ "Enum" = Identifier.capitalize q.name ++ "Enum"
  rw [h]

variable {v : Conventions} {unicode : Bool}

theorem enumName_refreshLeaf (hv : v = .neutral unicode) {p : Property} (henum : p.isEnum = true)
    (hleaf : p.isContainer = false) :
    (refreshLeaf v p).enumName = some (v.enumName (refreshLeaf v p)) ∧
      (refreshLeaf v p).datatypeWithEnum = v.enumName (refreshLeaf v p) := by
  subst hv
  rw [enumName_congr unicode (name_refreshLeaf _ p), refreshLeaf, henum, hleaf]
  exact ⟨rfl, rfl⟩

theorem enumName_around (hv : v = .neutral unicode) (facts : PropertyFacts) {inner : Property}
    (henum : inner.innermost.isEnum = true) :
    (around v facts inner).enumName = some (v.enumName (around v facts inner)) := by
  subst hv
  unfold around
  dsimp only
  rw [if_pos henum]
  rfl

theorem enumNamed_refresh (hv : v = .neutral unicode) {p : Property} (hformed : Formed v p)
    (henum : p.innermost.isEnum = true) : EnumNamed v (refresh v p) := by
  induction p using Property.innermost.induct with
  | case1 facts =>
    have hleaf : isContainer ⟨facts, none⟩ = false := by simp [isContainer, hformed.1]
    obtain ⟨hname, hdeclared⟩ := enumName_refreshLeaf hv (p := ⟨facts, none⟩) henum hleaf
    obtain ⟨facts', heq, -⟩ := refreshLeaf_spec v facts none
    rw [heq] at hname hdeclared
    rw [refresh, heq]
    exact ⟨List.forall_mem_singleton.mpr hname, hdeclared⟩
  | case2 facts inner ih =>
    have hinner := ih hformed.2 henum
    have hname := enumName_around hv facts ((isEnum_innermost_refresh v inner).trans henum)
    obtain ⟨facts', heq, -⟩ := around_spec v facts (refresh v inner)
    rw [heq] at hname
    rw [refresh, heq]
    exact ⟨List.forall_mem_cons.mpr ⟨hname, hinner.levels⟩, hinner.innermost⟩

theorem enumNamed_setType (hv : v = .neutral unicode) (tag : TypeTag) {facts : PropertyFacts}
    (hnone : facts.container = .none) (henum : facts.isEnum = true) (isObject : Bool) :
    let p := setType v tag ⟨facts, none⟩
    EnumNamed v { p with flags := { p.flags with isObject } } := by
  intro p
  have hnamed : p.enumName = some (v.enumName p) ∧ p.datatypeWithEnum = v.enumName p :=
    enumName_refreshLeaf hv henum (by simp [isContainer, hnone])
  obtain ⟨facts', heq, -⟩ := setType_spec v tag facts none
  rw [show p = ⟨facts', none⟩ from heq] at hnamed ⊢
  subst hv
  exact ⟨List.forall_mem_singleton.mpr hnamed.1, hnamed.2⟩

theorem enumNamed_ofSchemaAt {c : Context} (hv : c.conventions = .neutral unicode) (depth : Nat)
    (name : String) (s : Schema)
    (henum : (ofSchemaAt c depth name s).value.innermost.isEnum = true) :
    EnumNamed c.conventions (ofSchemaAt c depth name s).value := by
  revert henum
  refine ofSchemaAt_induct (P := fun _ _ _ built => built.value.innermost.isEnum = true →
    EnumNamed c.conventions built.value) ?_ ?_ ?_ depth name s
  · intro _ name s _ henum
    rw [isEnum_innermost_cutOff] at henum
    exact absurd henum (by simp)
  · intro _ name s _ _ henum
    have hkept := kept_leaf c name s
    simp only [kept, Prod.mk.injEq] at hkept
    rw [innermost_eq_self hkept.2.2.2, value_leaf] at henum
    rw [value_leaf]
    exact enumNamed_setType hv _ rfl
      ((congrArg (·.2.1) (kept_setType c.conventions _ _)).symm.trans henum) _
  · intro depth name s kind items inner built _ hs hitems _ hbuilt henum
    have hformed : Formed c.conventions inner.value := by
      rw [hitems]
      exact (coherent_ofSchemaAt c _ _ items).formed
    rw [hbuilt.value] at henum ⊢
    exact enumNamed_refresh hv ⟨Schema.ne_none_of_contents? hs, hformed⟩
      ((isEnum_innermost_refresh c.conventions ⟨_, some inner.value⟩).symm.trans henum)

/-! ## The declared type of an enum -/

/-- The declaration of a type inside the containers of a chain. -/
def declares (v : Conventions) (p : Property) (type : String) : String :=
  p.kinds.foldr v.containerDeclaration type

theorem declareContainer_injective (kind : ContainerKind) :
    Function.Injective (declareContainer kind) := by
  intro a b h
  cases kind with
  | none => exact h
  | array => exact (String.append_right_inj _).mp ((String.append_left_inj _).mp h)
  | map => exact (String.append_right_inj _).mp ((String.append_left_inj _).mp h)

theorem declares_injective (hv : v = .neutral unicode) (p : Property) :
    Function.Injective (declares v p) := by
  subst hv
  intro a b
  unfold declares
  induction p.kinds with
  | nil => exact id
  | cons kind kinds ih => exact fun h => ih (declareContainer_injective kind h)

/-- The declared type of a chain that ends in an enum is that of the end inside its containers. -/
theorem datatypeWithEnum_eq_declares (hv : v = .neutral unicode) {p : Property}
    (h : Coherent v p) (henum : p.innermost.isEnum = true) :
    p.datatypeWithEnum = p.declares v p.innermost.datatypeWithEnum := by
  obtain ⟨hformed, -, hderived⟩ := h
  unfold declares
  induction p using Property.innermost.induct with
  | case1 facts =>
    rw [kinds_eq, Option.elim_none, show facts.container = .none from hformed.1, hv]
    rfl
  | case2 facts inner ih =>
    have hrest := fun q hq => hderived q (List.mem_cons_of_mem _ hq)
    have houter := (hderived _ List.mem_cons_self inner rfl).datatypeWithEnum
    rw [houter, if_pos henum, ih henum hformed.2 hrest, kinds_eq ⟨facts, some inner⟩]
    rfl

/-- By the neutral conventions a property that ends in an enum names it after itself. The type that
it declares is, inside its containers, the enum of the last name that one of these gives to its
items. That is the enum it names exactly if both names make the same enum. -/
theorem enumName_declared_iff {c : Context} (hv : c.conventions = .neutral unicode) (name : String)
    (s : Schema) (henum : (ofSchema c name s).value.innermost.isEnum = true) :
    let p := (ofSchema c name s).value
    let stem := fun name => Identifier.capitalize (c.conventions.varName name)
    p.enumName = some (stem name ++ "Enum") ∧
      p.datatypeWithEnum = p.declares c.conventions (stem (s.itemNames.getLastD name) ++ "Enum") ∧
      (p.enumName.map (p.declares c.conventions) = some p.datatypeWithEnum ↔
        stem (s.itemNames.getLastD name) = stem name) := by
  intro p stem
  have hnamed : EnumNamed c.conventions p := enumNamed_ofSchemaAt hv 0 name s henum
  have hstem : ∀ q : Property, c.conventions.enumName q =
      Identifier.capitalize q.name ++ "Enum" := fun q => by rw [hv]; rfl
  have hname : p.enumName = some (stem name ++ "Enum") := by
    rw [hnamed.levels p (mem_levels_self p), hstem]
    exact congrArg (fun own => some (Identifier.capitalize own ++ "Enum"))
      (name_ofSchemaAt c 0 name s)
  have hdeclared : p.datatypeWithEnum =
      p.declares c.conventions (stem (s.itemNames.getLastD name) ++ "Enum") := by
    have hend : p.innermost.name = _ := name_innermost_ofSchemaAt hv 0 name s henum
    have hwhole : p.datatypeWithEnum = _ :=
      datatypeWithEnum_eq_declares hv (coherent_ofSchemaAt c 0 name s) henum
    rw [hwhole, hnamed.innermost, hstem, hend]
  refine ⟨hname, hdeclared, ?_⟩
  rw [hname, hdeclared, Option.map_some, Option.some_inj, (declares_injective hv p).eq_iff,
    String.append_left_inj, eq_comm]

/-- A text that lists its values. -/
def onOff : Schema := { shape := .scalar .string, enumValues := [.string "on", .string "off"] }

/-- The items of an array are named after it, so it declares the enum that it names. -/
theorem enumName_declared_switches :
    let c : Context := { options := {}, conventions := .neutral false, document := {} }
    let p := (ofSchema c "status" (.ofShape (.array (some onOff)))).value
    p.innermost.isEnum = true ∧
      p.enumName.map (p.declares c.conventions) = some p.datatypeWithEnum := by
  intro c p
  have henum : p.innermost.isEnum = true := by decide
  exact ⟨henum, (enumName_declared_iff rfl "status" _ henum).2.2.mpr rfl⟩

/-- The values of a map are named `inner`, and the map declares their enum and not the one that it
names. -/
theorem enumName_ne_declared_switches :
    let c : Context := { options := {}, conventions := .neutral false, document := {} }
    let p := (ofSchema c "status" (.ofShape (.map (some onOff) [] []))).value
    p.innermost.isEnum = true ∧ p.enumName = some "StatusEnum" ∧
      p.enumName.map (p.declares c.conventions) = some "map<string, StatusEnum>" ∧
      p.datatypeWithEnum = "map<string, InnerEnum>" := by
  decide +kernel

end Property
end ApiResolution
