import ApiResolution.Schema.Object

/-!
Schemas and the objects that they are written as. A property of every schema in a tree (`Every`) is
carried from a schema object to its schema and back (`every_ofObject`, `every_ofSchema`). What a
schema object expresses is settled: it keeps extensions only and combines at least one branch. A
settled schema is expressed by the object that writes it (`ofObject_ofSchema`), so writing a schema
loses nothing (`ofObject_ofSchema_ofObject`).
-/

namespace ApiResolution

/-- The parts directly inside a shape. -/
def Shape.parts {α : Type} : Shape α → List α
  | .array items => items.toList
  | .map value ps _ => value.toList ++ ps.map (·.2)
  | .object ps _ => ps.map (·.2)
  | .composed allOf oneOf anyOf ps _ => allOf ++ oneOf ++ anyOf ++ ps.map (·.2)
  | .scalar _ => []
  | .reference _ => []
  | .any => []

/-- A property of a schema and of all schemas inside it. -/
inductive Schema.Every (holds : Schema → Prop) : Schema → Prop
  | node {s : Schema} (here : holds s) (inside : ∀ t ∈ s.shape.parts, Every holds t) :
      Every holds s

/-- The schema object of an `additionalProperties` keyword. -/
def AdditionalKeyword.schema? {α : Type} : AdditionalKeyword α → Option α
  | .flag _ => none
  | .schema o => some o

/-- The schema objects directly inside a schema object. -/
def SchemaObject.parts (o : SchemaObject) : List SchemaObject :=
  o.items.toList ++ (o.properties.getD []).map (·.2) ++ (o.additional.bind (·.schema?)).toList ++
    o.allOf.getD [] ++ o.oneOf.getD [] ++ o.anyOf.getD []

/-- A property of a schema object and of all schema objects inside it. -/
inductive SchemaObject.Every (holds : SchemaObject → Prop) : SchemaObject → Prop
  | node {o : SchemaObject} (here : holds o) (inside : ∀ t ∈ o.parts, Every holds t) :
      Every holds o

theorem Schema.Every.here {holds : Schema → Prop} {s : Schema} (h : s.Every holds) : holds s := by
  cases h with
  | node here _ => exact here

theorem Schema.Every.inside {holds : Schema → Prop} {s t : Schema} (h : s.Every holds)
    (ht : t ∈ s.shape.parts) : t.Every holds := by
  cases h with
  | node _ inside => exact inside t ht

theorem Schema.Every.and {p q : Schema → Prop} {s : Schema} (hp : s.Every p) (hq : s.Every q) :
    s.Every fun t => p t ∧ q t := by
  induction hp with
  | node here _ ih => exact .node ⟨here, hq.here⟩ fun t ht => ih t ht (hq.inside ht)

theorem Schema.Every.mono {p q : Schema → Prop} (hpq : ∀ t, p t → q t) {s : Schema} (h : s.Every p) :
    s.Every q := by
  induction h with
  | node here _ ih => exact .node (hpq _ here) ih

/-! ## What the parts of schemas and schema objects express -/

namespace Schema

theorem ofObjects_eq_map (os : List SchemaObject) : ofObjects os = os.map ofObject := by
  induction os with
  | nil => rfl
  | cons o os ih => rw [ofObjects, ih, List.map_cons]

theorem ofProperties_eq_map (ps : List (String × SchemaObject)) :
    ofProperties ps = ps.map fun e => (e.1, ofObject e.2) := by
  induction ps with
  | nil => rfl
  | cons p ps ih => rw [ofProperties, ih, List.map_cons]

theorem ofBranches_eq (os : Option (List SchemaObject)) :
    ofBranches os = (os.getD []).map ofObject := by
  cases os with
  | none => rfl
  | some os => exact ofObjects_eq_map os

theorem ofMembers_eq (ps : Option (List (String × SchemaObject))) :
    ofMembers ps = (ps.getD []).map fun e => (e.1, ofObject e.2) := by
  cases ps with
  | none => rfl
  | some ps => exact ofProperties_eq_map ps

theorem ofItems_eq (o : Option SchemaObject) : ofItems o = o.map ofObject := by
  cases o <;> rfl

theorem schema?_ofAdditional (a : Option (AdditionalKeyword SchemaObject)) :
    (ofAdditional a).bind (·.schema?) = (a.bind (·.schema?)).map ofObject := by
  rcases a with _ | b | o <;> rfl

end Schema

namespace Shape

variable {α : Type}

theorem mem_parts_ofUntyped {typed : Bool} {additional : Option (AdditionalKeyword α)}
    {items : Option α} {properties : List (String × α)} {required : List String} {t : α}
    (h : t ∈ (ofUntyped typed additional items properties required).parts) :
    t ∈ items ∨ t ∈ properties.map (·.2) ∨ t ∈ additional.bind (·.schema?) := by
  unfold ofUntyped at h
  split at h
  · exact .inr (.inl (by simpa [parts] using h))
  · simp only [parts, Option.toList_some, List.singleton_append, List.mem_cons] at h
    exact h.elim (fun h => .inr (.inr (by simp [AdditionalKeyword.schema?, h]))) (.inr ∘ .inl)
  · split at h
    · exact .inr (.inl h)
    · split at h
      · exact .inl (by simpa [parts] using h)
      · simp [parts] at h

/-- The parts of a shape are among those that it is settled from. -/
theorem mem_parts_settle {reference typeName : Option String} {allOf oneOf anyOf : List α}
    {items : Option α} {properties : List (String × α)} {required : List String}
    {additional : Option (AdditionalKeyword α)} {t : α}
    (h : t ∈ (settle reference typeName allOf oneOf anyOf items properties required
      additional).parts) :
    t ∈ allOf ∨ t ∈ oneOf ∨ t ∈ anyOf ∨ t ∈ items ∨ t ∈ properties.map (·.2) ∨
      t ∈ additional.bind (·.schema?) := by
  unfold settle at h
  split at h
  · simp [parts] at h
  · split at h
    · simp only [parts, List.mem_append] at h
      rcases h with ((h | h) | h) | h
      · exact .inl h
      · exact .inr (.inl h)
      · exact .inr (.inr (.inl h))
      · exact .inr (.inr (.inr (.inr (.inl h))))
    · split at h
      · exact .inr (.inr (.inr (.inl (by simpa [parts] using h))))
      all_goals first
        | exact .inr (.inr (.inr (mem_parts_ofUntyped h)))
        | exact absurd h (by simp [parts])

/-- Only a combination with a branch is settled. -/
theorem settle_composed {reference typeName : Option String} {allOf oneOf anyOf : List α}
    {items : Option α} {properties : List (String × α)} {required : List String}
    {additional : Option (AdditionalKeyword α)} {a o n : List α} {ps : List (String × α)}
    {rs : List String}
    (h : settle reference typeName allOf oneOf anyOf items properties required additional =
      .composed a o n ps rs) : a ≠ [] ∨ o ≠ [] ∨ n ≠ [] := by
  have huntyped : ∀ typed, ofUntyped typed additional items properties required ≠
      .composed a o n ps rs := by
    intro typed
    unfold ofUntyped
    split
    · simp
    · simp
    · split
      · simp
      · split <;> simp
  unfold settle at h
  split at h
  · exact absurd h (by simp)
  · split at h
    · next hbranches =>
      injection h with ha ho hn
      subst ha ho hn
      simpa [or_assoc] using hbranches
    · split at h
      all_goals first
        | exact absurd h (huntyped _)
        | exact absurd h (by simp)

/-- The properties of a shape are those that it is settled from. -/
theorem eq_of_properties?_settle {reference typeName : Option String} {allOf oneOf anyOf : List α}
    {items : Option α} {properties ps : List (String × α)} {required : List String}
    {additional : Option (AdditionalKeyword α)}
    (h : (settle reference typeName allOf oneOf anyOf items properties required
      additional).properties? = some ps) : ps = properties := by
  have huntyped : ∀ typed, (ofUntyped typed additional items properties required).properties? =
      some ps → ps = properties := by
    intro typed h
    unfold ofUntyped at h
    split at h
    · exact (Option.some.inj h).symm
    · exact (Option.some.inj h).symm
    · split at h
      · exact (Option.some.inj h).symm
      · split at h <;> exact absurd h (by simp [properties?])
  unfold settle at h
  split at h
  · exact absurd h (by simp [properties?])
  · split at h
    · exact (Option.some.inj h).symm
    · split at h
      all_goals first
        | exact huntyped _ h
        | exact absurd h (by simp [properties?])

end Shape

namespace SchemaObject

theorem sizeOf_lt_of_mem_parts {o t : SchemaObject} (h : t ∈ o.parts) : sizeOf t < sizeOf o := by
  rcases o with ⟨k, items, properties, additional, allOf, oneOf, anyOf⟩
  have hbranch : ∀ {os : Option (List SchemaObject)}, t ∈ os.getD [] → sizeOf t < sizeOf os := by
    intro os ht
    cases os with
    | none => simp at ht
    | some os =>
      have hlt := List.sizeOf_lt_of_mem ht
      simp only [Option.getD_some, Option.some.sizeOf_spec] at hlt ⊢
      omega
  simp only [parts, List.mem_append] at h
  rw [mk.sizeOf_spec]
  rcases h with ((((h | h) | h) | h) | h) | h
  · obtain rfl := Option.mem_toList.mp h
    rw [Option.some.sizeOf_spec]
    omega
  · cases properties with
    | none => simp at h
    | some ps =>
      obtain ⟨e, he, rfl⟩ := List.mem_map.mp h
      have hlt := List.sizeOf_lt_of_mem he
      rcases e with ⟨key, s⟩
      simp only [Option.getD_some, Prod.mk.sizeOf_spec, Option.some.sizeOf_spec] at hlt ⊢
      omega
  · obtain ⟨a, ha, hs⟩ := Option.bind_eq_some_iff.mp (Option.mem_toList.mp h)
    subst ha
    cases a with
    | flag b => exact absurd hs (by simp [AdditionalKeyword.schema?])
    | schema s =>
      obtain rfl := Option.some.inj hs
      rw [Option.some.sizeOf_spec, AdditionalKeyword.schema.sizeOf_spec]
      omega
  · have := hbranch h
    omega
  · have := hbranch h
    omega
  · have := hbranch h
    omega

/-- What holds of a schema object if it holds of those directly inside it holds of all. -/
theorem inside_induction {holds : SchemaObject → Prop}
    (h : ∀ o, (∀ t ∈ o.parts, holds t) → holds o) (o : SchemaObject) : holds o :=
  h o fun t _ => inside_induction h t
termination_by sizeOf o
decreasing_by exact sizeOf_lt_of_mem_parts ‹_›

theorem every_true (o : SchemaObject) : o.Every fun _ => True := by
  induction o using inside_induction with
  | h o ih => exact .node trivial ih

end SchemaObject

namespace Schema

theorem sizeOf_lt_of_mem_parts {s t : Schema} (h : t ∈ s.shape.parts) : sizeOf t < sizeOf s := by
  have hlist : ∀ {ss : List Schema}, t ∈ ss → sizeOf t < sizeOf ss := List.sizeOf_lt_of_mem
  have hmembers : ∀ {ps : List (String × Schema)}, t ∈ ps.map (·.2) → sizeOf t < sizeOf ps := by
    intro ps ht
    obtain ⟨⟨key, u⟩, he, rfl⟩ := List.mem_map.mp ht
    have hlt := List.sizeOf_lt_of_mem he
    rw [Prod.mk.sizeOf_spec] at hlt
    dsimp only
    omega
  have helement : ∀ {o : Option Schema}, t ∈ o.toList → sizeOf t < sizeOf o := by
    intro o ht
    obtain rfl := Option.mem_toList.mp ht
    rw [Option.some.sizeOf_spec]
    omega
  rcases s with ⟨a, shape⟩
  rw [mk.sizeOf_spec]
  cases shape with
  | array items =>
    have := helement h
    simp only [Shape.array.sizeOf_spec]
    omega
  | map value ps rs =>
    simp only [Shape.map.sizeOf_spec]
    rcases List.mem_append.mp h with h | h
    · have := helement h
      omega
    · have := hmembers h
      omega
  | object ps rs =>
    have := hmembers h
    simp only [Shape.object.sizeOf_spec]
    omega
  | composed allOf oneOf anyOf ps rs =>
    simp only [Shape.parts, List.mem_append] at h
    simp only [Shape.composed.sizeOf_spec]
    rcases h with ((h | h) | h) | h
    · have := hlist h
      omega
    · have := hlist h
      omega
    · have := hlist h
      omega
    · have := hmembers h
      omega
  | _ => exact absurd h List.not_mem_nil

/-- What holds of a schema if it holds of those directly inside it holds of all. -/
theorem inside_induction {holds : Schema → Prop}
    (h : ∀ s, (∀ t ∈ s.shape.parts, holds t) → holds s) (s : Schema) : holds s :=
  h s fun t _ => inside_induction h t
termination_by sizeOf s
decreasing_by exact sizeOf_lt_of_mem_parts ‹_›

theorem shape_ofObject (o : SchemaObject) :
    (ofObject o).shape = .settle o.reference o.typeName? ((o.allOf.getD []).map ofObject)
      ((o.oneOf.getD []).map ofObject) ((o.anyOf.getD []).map ofObject) (o.items.map ofObject)
      ((o.properties.getD []).map fun e => (e.1, ofObject e.2)) (o.required.getD [])
      (ofAdditional o.additional) := by
  rcases o with ⟨k, items, properties, additional, allOf, oneOf, anyOf⟩
  rw [ofObject, ofBranches_eq, ofBranches_eq, ofBranches_eq, ofItems_eq, ofMembers_eq]

/-- A schema inside the schema of an object is that of an object inside it. -/
theorem exists_of_mem_parts_ofObject {o : SchemaObject} {t : Schema}
    (h : t ∈ (ofObject o).shape.parts) : ∃ o' ∈ o.parts, t = ofObject o' := by
  rw [shape_ofObject] at h
  unfold SchemaObject.parts
  simp only [List.mem_append]
  rcases Shape.mem_parts_settle h with h | h | h | h | h | h
  · obtain ⟨o', ho', rfl⟩ := List.mem_map.mp h
    exact ⟨o', .inl (.inl (.inr ho')), rfl⟩
  · obtain ⟨o', ho', rfl⟩ := List.mem_map.mp h
    exact ⟨o', .inl (.inr ho'), rfl⟩
  · obtain ⟨o', ho', rfl⟩ := List.mem_map.mp h
    exact ⟨o', .inr ho', rfl⟩
  · obtain ⟨o', ho', rfl⟩ := Option.map_eq_some_iff.mp h
    exact ⟨o', .inl (.inl (.inl (.inl (.inl (Option.mem_toList.mpr ho'))))), rfl⟩
  · rw [List.map_map] at h
    obtain ⟨e, he, rfl⟩ := List.mem_map.mp h
    exact ⟨e.2, .inl (.inl (.inl (.inl (.inr (List.mem_map_of_mem he))))), rfl⟩
  · rw [schema?_ofAdditional] at h
    obtain ⟨o', ho', rfl⟩ := Option.map_eq_some_iff.mp h
    exact ⟨o', .inl (.inl (.inl (.inr (Option.mem_toList.mpr ho')))), rfl⟩

/-- What each schema object gives to its schema, all of them give to the whole tree. -/
theorem every_ofObject {p : SchemaObject → Prop} {q : Schema → Prop}
    (h : ∀ o, p o → q (ofObject o)) {o : SchemaObject} (ho : o.Every p) : (ofObject o).Every q := by
  induction ho with
  | node here _ ih =>
    refine .node (h _ here) fun t ht => ?_
    obtain ⟨o', ho', rfl⟩ := exists_of_mem_parts_ofObject ht
    exact ih o' ho'

/-- A schema that some schema object expresses: it keeps extensions only, and a combination has a
branch. -/
structure Settled (s : Schema) : Prop where
  extensions : ∀ e ∈ s.extensions, isExtensionName e.1 = true
  branches : ∀ allOf oneOf anyOf ps rs, s.shape = .composed allOf oneOf anyOf ps rs →
    allOf ≠ [] ∨ oneOf ≠ [] ∨ anyOf ≠ []

theorem toAnnotations_ofObject (o : SchemaObject) :
    (ofObject o).toAnnotations = o.toPlainKeywords.annotations := by
  cases o
  rfl

theorem settled_ofObject (o : SchemaObject) : Settled (ofObject o) where
  extensions e he := by
    rw [toAnnotations_ofObject] at he
    exact (List.mem_filter.mp he).2
  branches allOf oneOf anyOf ps rs h := by
    rw [shape_ofObject] at h
    exact Shape.settle_composed h

end Schema

/-! ## Writing and expressing -/

namespace SchemaObject

theorem ofSchemas_eq_map (ss : List Schema) : ofSchemas ss = ss.map ofSchema := by
  induction ss with
  | nil => rfl
  | cons s ss ih => rw [ofSchemas, ih, List.map_cons]

theorem ofProperties_eq_map (ps : List (String × Schema)) :
    ofProperties ps = ps.map fun e => (e.1, ofSchema e.2) := by
  induction ps with
  | nil => rfl
  | cons p ps ih => rw [ofProperties, ih, List.map_cons]

theorem getD_nonemptyList? {α : Type} (xs : List α) : (nonemptyList? xs).getD [] = xs := by
  cases xs <;> rfl

theorem getD_setFlag? (b : Bool) : (setFlag? b).getD false = b := by
  cases b <;> rfl

/-- A schema object inside the one that writes a schema writes a schema inside it. -/
theorem exists_of_mem_parts_ofSchema {s : Schema} {o : SchemaObject}
    (h : o ∈ (ofSchema s).parts) : ∃ t ∈ s.shape.parts, o = ofSchema t := by
  have hbranches : ∀ {ss : List Schema}, o ∈ (nonemptyList? (ofSchemas ss)).getD [] →
      ∃ t ∈ ss, o = ofSchema t := by
    intro ss ho
    rw [getD_nonemptyList?, ofSchemas_eq_map] at ho
    obtain ⟨t, ht, rfl⟩ := List.mem_map.mp ho
    exact ⟨t, ht, rfl⟩
  have hmembers : ∀ {ps : List (String × Schema)},
      o ∈ ((nonemptyList? (ofProperties ps)).getD []).map (·.2) →
      ∃ t ∈ ps.map (·.2), o = ofSchema t := by
    intro ps ho
    rw [getD_nonemptyList?, ofProperties_eq_map, List.map_map] at ho
    obtain ⟨e, he, rfl⟩ := List.mem_map.mp ho
    exact ⟨e.2, List.mem_map_of_mem he, rfl⟩
  rcases s with ⟨a, shape⟩
  unfold parts at h
  simp only [List.mem_append] at h
  cases shape with
  | array items =>
    cases items with
    | none => simp [ofSchema, ofShape] at h
    | some t => exact ⟨t, List.mem_cons_self, by simpa [ofSchema, ofShape] using h⟩
  | map value ps rs =>
    cases value with
    | none => exact hmembers (by simpa [ofSchema, ofShape, AdditionalKeyword.schema?] using h)
    | some value =>
      have hor :
          o ∈ ((nonemptyList? (ofProperties ps)).getD []).map (·.2) ∨ o = ofSchema value := by
        simpa [ofSchema, ofShape, AdditionalKeyword.schema?] using h
      rcases hor with ho | rfl
      · obtain ⟨t, ht, rfl⟩ := hmembers ho
        exact ⟨t, List.mem_append_right _ ht, rfl⟩
      · exact ⟨value, List.mem_cons_self, rfl⟩
  | object ps rs => exact hmembers (by simpa [ofSchema, ofShape] using h)
  | composed allOf oneOf anyOf ps rs =>
    have hor : ((o ∈ ((nonemptyList? (ofProperties ps)).getD []).map (·.2) ∨
        o ∈ (nonemptyList? (ofSchemas allOf)).getD []) ∨
        o ∈ (nonemptyList? (ofSchemas oneOf)).getD []) ∨
        o ∈ (nonemptyList? (ofSchemas anyOf)).getD [] := by
      simpa [ofSchema, ofShape] using h
    simp only [Shape.parts, List.mem_append]
    rcases hor with ((ho | ho) | ho) | ho
    · obtain ⟨t, ht, rfl⟩ := hmembers ho
      exact ⟨t, .inr ht, rfl⟩
    · obtain ⟨t, ht, rfl⟩ := hbranches ho
      exact ⟨t, .inl (.inl (.inl ht)), rfl⟩
    · obtain ⟨t, ht, rfl⟩ := hbranches ho
      exact ⟨t, .inl (.inl (.inr ht)), rfl⟩
    · obtain ⟨t, ht, rfl⟩ := hbranches ho
      exact ⟨t, .inl (.inr ht), rfl⟩
  | _ => simp [ofSchema, ofShape] at h

/-- What each schema gives to the object that writes it, all of them give to the whole tree. -/
theorem every_ofSchema {p : Schema → Prop} {q : SchemaObject → Prop}
    (h : ∀ s, p s → q (ofSchema s)) {s : Schema} (hs : s.Every p) : (ofSchema s).Every q := by
  induction hs with
  | node here _ ih =>
    refine .node (h _ here) fun o ho => ?_
    obtain ⟨t, ht, rfl⟩ := exists_of_mem_parts_ofSchema ho
    exact ih t ht

end SchemaObject

namespace PlainKeywords

open SchemaObject

theorem settleBound_flag (bound : Option Number) (exclusive : Bool) :
    settleBound bound (if exclusive then some (.bool true) else none) = (bound, exclusive) := by
  cases exclusive <;> rfl

/-- The keywords that write annotations express them, as long as these hold extensions only. -/
theorem annotations_keywords {a : Annotations}
    (h : ∀ e ∈ a.extensions, isExtensionName e.1 = true) (reference typeName : Option String)
    (required : Option (List String)) :
    annotations { a.keywords with
      reference, typeKeyword := typeName.map .single, required } = a := by
  generalize hk : ({ a.keywords with
    reference, typeKeyword := typeName.map .single, required } : PlainKeywords) = k
  have hvalues : k.annotations.enumValues = a.enumValues := by
    rw [← hk]
    unfold annotations
    dsimp only [Annotations.keywords]
    rw [getD_nonemptyList?]
    cases a.enumValues <;> rfl
  have hnull : k.nullInType = false := by
    rw [← hk]
    cases typeName <;> rfl
  have hextensions : k.others.filter (fun e => isExtensionName e.1) = a.extensions := by
    rw [← hk]
    exact List.filter_eq_self.mpr h
  calc k.annotations = { k.annotations with enumValues := k.annotations.enumValues } := rfl
    _ = a := by
      rw [hvalues]
      unfold annotations
      rw [hnull, Bool.or_false, hextensions, ← hk]
      dsimp only [Annotations.keywords]
      rw [getD_setFlag?, getD_setFlag?, getD_setFlag?, getD_setFlag?, settleBound_flag,
        settleBound_flag]

end PlainKeywords

namespace Schema

variable {ss : List Schema} {ps : List (String × Schema)}

theorem ofBranches_ofSchemas (h : ∀ t ∈ ss, ofObject (.ofSchema t) = t) :
    ofBranches (nonemptyList? (SchemaObject.ofSchemas ss)) = ss := by
  rw [ofBranches_eq, SchemaObject.getD_nonemptyList?, SchemaObject.ofSchemas_eq_map, List.map_map]
  exact (List.map_congr_left h).trans (List.map_id' ss)

theorem ofMembers_ofProperties (h : ∀ t ∈ ps.map (·.2), ofObject (.ofSchema t) = t) :
    ofMembers (nonemptyList? (SchemaObject.ofProperties ps)) = ps := by
  rw [ofMembers_eq, SchemaObject.getD_nonemptyList?, SchemaObject.ofProperties_eq_map,
    List.map_map]
  refine (List.map_congr_left fun e he => ?_).trans (List.map_id' ps)
  exact Prod.ext rfl (h e.2 (List.mem_map_of_mem he))

theorem ofObject_eq {o : SchemaObject} {a : Annotations} {shape : Shape Schema}
    (ha : o.toPlainKeywords.annotations = a) (hshape : (ofObject o).shape = shape) :
    ofObject o = ⟨a, shape⟩ := by
  rw [← hshape, ← ha, ← toAnnotations_ofObject]
  cases ofObject o
  rfl

/-- A settled schema is what the object that writes it expresses. -/
theorem ofObject_ofSchema {s : Schema} (h : s.Every Settled) : ofObject (.ofSchema s) = s := by
  induction h with
  | @node s here _ ih =>
    rcases s with ⟨a, shape⟩
    have ha := PlainKeywords.annotations_keywords here.extensions
    cases shape with
    | scalar type =>
      refine ofObject_eq (ha none (some type.keyword) none) ?_
      cases type <;> rfl
    | array items =>
      cases items with
      | none => exact ofObject_eq (ha none (some "array") none) rfl
      | some items =>
        refine ofObject_eq (ha none (some "array") none) ?_
        exact congrArg (fun t => Shape.array (some t)) (ih items List.mem_cons_self)
    | map value ps rs =>
      cases value with
      | none =>
        refine ofObject_eq (ha none (some "object") (nonemptyList? rs)) ?_
        change Shape.map none (ofMembers _) ((nonemptyList? rs).getD []) = _
        rw [ofMembers_ofProperties ih, SchemaObject.getD_nonemptyList?]
      | some value =>
        refine ofObject_eq (ha none (some "object") (nonemptyList? rs)) ?_
        change Shape.map (some (ofObject (.ofSchema value))) (ofMembers _)
          ((nonemptyList? rs).getD []) = _
        rw [ofMembers_ofProperties fun t ht => ih t (List.mem_cons_of_mem _ ht),
          ih value List.mem_cons_self, SchemaObject.getD_nonemptyList?]
    | object ps rs =>
      refine ofObject_eq (ha none (some "object") (nonemptyList? rs)) ?_
      change Shape.object (ofMembers _) ((nonemptyList? rs).getD []) = _
      rw [ofMembers_ofProperties ih, SchemaObject.getD_nonemptyList?]
    | composed allOf oneOf anyOf ps rs =>
      refine ofObject_eq (ha none none (nonemptyList? rs)) ?_
      change Shape.settle none none (ofBranches _) (ofBranches _) (ofBranches _) none
        (ofMembers _) ((nonemptyList? rs).getD []) none = _
      have hinside : ∀ {t}, t ∈ allOf ++ oneOf ++ anyOf ++ ps.map (·.2) →
          ofObject (.ofSchema t) = t := fun {t} => ih t
      simp only [List.mem_append] at hinside
      rw [ofBranches_ofSchemas fun t ht => hinside (.inl (.inl (.inl ht))),
        ofBranches_ofSchemas fun t ht => hinside (.inl (.inl (.inr ht))),
        ofBranches_ofSchemas fun t ht => hinside (.inl (.inr ht)),
        ofMembers_ofProperties fun t ht => hinside (.inr ht), SchemaObject.getD_nonemptyList?]
      refine if_pos ?_
      simpa [or_assoc] using here.branches allOf oneOf anyOf ps rs rfl
    | reference target => exact ofObject_eq (ha (some target) none none) rfl
    | any => exact ofObject_eq (ha none none none) rfl

/-- Writing a schema that some schema object expresses loses nothing. -/
theorem ofObject_ofSchema_ofObject (o : SchemaObject) :
    ofObject (.ofSchema (ofObject o)) = ofObject o :=
  ofObject_ofSchema (every_ofObject (fun o _ => settled_ofObject o) o.every_true)

end Schema
end ApiResolution
