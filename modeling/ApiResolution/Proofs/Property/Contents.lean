import ApiResolution.Property.OfSchema

/-!
What a container contains. A schema that is an array or a map has a schema for its items, also when
it leaves them open (`Schema.contents?`), and may give them a name. The property of a schema is
built along these, so what is to be shown of it at every depth is shown of three cases: a schema
that lies too deep, one that is no container, and a container around the property of its items
(`ofSchemaAt_induct`).
-/

namespace ApiResolution

namespace Schema

/-- The container that a schema is, with the schema of its items: texts in an array that leaves them
open, objects in a map that does. -/
def contents? : Schema → Option (ContainerKind × Schema)
  | ⟨_, .array items⟩ => some (.array, items.getD (.scalar .string))
  | ⟨_, .map value _ _⟩ => some (.map, value.getD .emptyObject)
  | _ => none

/-- The name that a container gives to its items. -/
def contentsName? (s : Schema) : Option String :=
  match s.shape with
  | .array _ => s.extensionText? "x-item-name"
  | .map .. => some "inner"
  | _ => none

/-- What is noted of an array that leaves its items open. -/
def openItems (name : String) (s : Schema) : List Note :=
  match s.shape with
  | .array none => [.diagnostic ⟨.missingArrayItems, name,
      "Array property '" ++ name ++ "' has no items; assuming string"⟩]
  | _ => []

theorem contents?_eq_none_iff (s : Schema) :
    s.contents? = none ↔ s.isArray = false ∧ s.isMap = false := by
  rcases s with ⟨a, shape⟩
  cases shape <;> simp [contents?, isArray, isMap]

/-- A schema contains the items that it states, or those that are assumed when it leaves them
open. -/
inductive Contains : Schema → ContainerKind → Schema → Prop
  | array (a : Annotations) (items : Schema) : Contains ⟨a, .array (some items)⟩ .array items
  | openArray (a : Annotations) : Contains ⟨a, .array none⟩ .array (.scalar .string)
  | map (a : Annotations) (value : Schema) (ps : Entries Schema) (rs : List String) :
    Contains ⟨a, .map (some value) ps rs⟩ .map value
  | openMap (a : Annotations) (ps : Entries Schema) (rs : List String) :
    Contains ⟨a, .map none ps rs⟩ .map .emptyObject

theorem contains_of_contents? {s items : Schema} {kind : ContainerKind}
    (h : s.contents? = some (kind, items)) : Contains s kind items := by
  rcases s with ⟨a, shape⟩
  cases shape with
  | array open? =>
    obtain ⟨rfl, rfl⟩ := Prod.mk.inj (Option.some.inj h)
    cases open? with
    | none => exact .openArray a
    | some items => exact .array a items
  | map open? ps rs =>
    obtain ⟨rfl, rfl⟩ := Prod.mk.inj (Option.some.inj h)
    cases open? with
    | none => exact .openMap a ps rs
    | some value => exact .map a value ps rs
  | _ => exact absurd h (by simp [contents?])

theorem ne_none_of_contents? {s items : Schema} {kind : ContainerKind}
    (h : s.contents? = some (kind, items)) : kind ≠ .none := by
  cases contains_of_contents? h <;> simp

end Schema

namespace Property

theorem notes_start (c : Context) (name : String) (s : Schema) :
    (start c name s).notes = (c.typeTag s).notes := by
  unfold start
  simp only [Noted.notes_bind, Noted.notes_pure, List.append_nil]

/-- What is built of a container from the property of its items. -/
structure Wraps (c : Context) (name : String) (s : Schema) (kind : ContainerKind)
    (inner built : Noted Property) : Prop where
  value : built.value = wrap c.conventions kind (start c name s).value.2 inner.value
  notes : built.notes = (c.typeTag s).notes ++ s.openItems name ++ inner.notes

/-- What holds of schemas that are cut off and of schemas that are no containers, and what a
container keeps of its items, holds of the property of every schema at every depth. -/
theorem ofSchemaAt_induct {c : Context} {P : Nat → String → Schema → Noted Property → Prop}
    (cutOff : ∀ depth name s, maxDepth < depth → P depth name s (cutOff c name s))
    (leaf : ∀ depth name s, ¬ maxDepth < depth → s.contents? = none →
      P depth name s (leaf c name s))
    (wrap : ∀ depth name s kind items inner built, ¬ maxDepth < depth →
      s.contents? = some (kind, items) →
      inner = ofSchemaAt c (depth + 1) (s.contentsName?.getD (c.conventions.varName name)) items →
      P (depth + 1) (s.contentsName?.getD (c.conventions.varName name)) items inner →
      Wraps c name s kind inner built → P depth name s built)
    (depth : Nat) (name : String) (s : Schema) : P depth name s (ofSchemaAt c depth name s) := by
  have hleafAt : ∀ depth name s, s.contents? = none → P depth name s (leafAt c depth name s) := by
    intro depth name s hs
    unfold leafAt
    split
    · next hdeep => exact cutOff depth name s hdeep
    · next hdeep => exact leaf depth name s hdeep hs
  fun_induction ofSchemaAt c depth name s with
  | case1 depth name a items s hdeep => exact cutOff depth name s hdeep
  | case2 depth name a items s hdeep ih =>
    refine wrap depth name s .array items _ _ hdeep rfl rfl (ih (start c name s).value.2) ⟨rfl, ?_⟩
    simp only [Noted.notes_bind, Noted.notes_pure, notes_start, List.append_nil]
    rfl
  | case3 depth name a s hdeep => exact cutOff depth name s hdeep
  | case4 depth name a s hdeep =>
    refine wrap depth name s .array (.scalar .string) _ _ hdeep rfl rfl (hleafAt _ _ _ rfl)
      ⟨rfl, ?_⟩
    simp only [Noted.notes_bind, Noted.notes_pure, notes_start, List.append_nil]
    rfl
  | case5 depth name a value ps rs s hdeep => exact cutOff depth name s hdeep
  | case6 depth name a value ps rs s hdeep ih =>
    refine wrap depth name s .map value _ _ hdeep rfl rfl ih ⟨rfl, ?_⟩
    simp only [Noted.notes_bind, Noted.notes_pure, notes_start, List.append_nil]
    rfl
  | case7 depth name a ps rs s hdeep => exact cutOff depth name s hdeep
  | case8 depth name a ps rs s hdeep =>
    refine wrap depth name s .map .emptyObject _ _ hdeep rfl rfl (hleafAt _ _ _ rfl) ⟨rfl, ?_⟩
    simp only [Noted.notes_bind, Noted.notes_pure, notes_start, List.append_nil]
    rfl
  | case9 depth name s hitems harray hvalue hmap =>
    refine hleafAt depth name s ?_
    rcases s with ⟨a, shape⟩
    cases shape with
    | array items =>
      cases items with
      | none => exact absurd rfl (harray a)
      | some items => exact absurd rfl (hitems a items)
    | map value ps rs =>
      cases value with
      | none => exact absurd rfl (hmap a ps rs)
      | some value => exact absurd rfl (hvalue a value ps rs)
    | _ => rfl

end Property
end ApiResolution
