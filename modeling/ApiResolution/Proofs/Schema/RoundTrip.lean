import ApiResolution.Proofs.Schema.Equality
import ApiResolution.Proofs.Schema.Reading

/-!
Writing a schema and reading it again. A schema that was read, however deep, is read again from its
JSON form unless a default or an example in it is null (`ofJson?_toJson`), which no JSON value gives
(`noNull_of_ofJson?`).
-/

namespace ApiResolution

namespace PlainKeywords

theorem mem_enumValues_annotations {k : PlainKeywords} {v : Json}
    (h : v ∈ k.annotations.enumValues) :
    (∃ vs, k.enumValues = some vs ∧ v ∈ vs) ∨ k.constValue = some v := by
  unfold annotations at h
  dsimp only at h
  split at h
  · exact .inr (Option.mem_toList.mp h)
  · cases hvs : k.enumValues with
    | none => simp [hvs] at h
    | some vs => exact .inl ⟨vs, rfl, by simpa [hvs] using h⟩

end PlainKeywords

namespace Schema

/-- What reading a schema gives: no mapping in it has a name twice, and it keeps extensions only. -/
structure Readable (s : Schema) : Prop where
  enumValues : ∀ v ∈ s.enumValues, v.Distinct
  values : ∀ v, s.defaultValue = some v ∨ s.exampleValue = some v → v.Distinct
  mapping : ∀ d, s.discriminator = some d → (Entries.keys d.mapping).Nodup
  nodup : (Entries.keys s.extensions).Nodup
  extensions : ∀ e ∈ s.extensions, isExtensionName e.1 = true ∧ e.2.Distinct
  properties : ∀ ps, s.properties? = some ps → (Entries.keys ps).Nodup

theorem readable_ofObject {o : SchemaObject} (h : o.Readable) : (ofObject o).Readable := by
  have ha := toAnnotations_ofObject o
  have hk := h.keywords
  refine ⟨?_, ?_, ?_, ?_, ?_, ?_⟩
  · rw [ha]
    intro v hv
    rcases PlainKeywords.mem_enumValues_annotations hv with ⟨vs, hvs, hv⟩ | hv
    · exact hk.enumValues vs hvs v hv
    · exact hk.values v (by simp [PlainKeywords.values, hv])
  · rw [ha]
    rintro v (hv | hv)
    · exact hk.values v (by simp [PlainKeywords.values, ← hv, PlainKeywords.annotations])
    · exact hk.values v (by simp [PlainKeywords.values, ← hv, PlainKeywords.annotations])
  · rw [ha]
    exact hk.mapping
  · rw [ha]
    exact (List.filter_sublist.map _).nodup hk.nodup
  · rw [ha]
    intro e he
    obtain ⟨he, hname⟩ := List.mem_filter.mp he
    exact ⟨hname, (hk.others e he).2⟩
  · intro ps hps
    rw [properties?, shape_ofObject] at hps
    obtain rfl := Shape.eq_of_properties?_settle hps
    rw [Entries.keys_map fun _ => ofObject]
    cases hobject : o.properties with
    | none => exact List.nodup_nil
    | some ps => exact h.properties ps hobject

theorem noNull_ofObject {o : SchemaObject} (h : o.NoNull) : (ofObject o).NoNull := by
  rw [toAnnotations_ofObject]
  refine ⟨fun hnull => h ?_, fun hnull => h ?_⟩
  · simp [PlainKeywords.values, ← hnull, PlainKeywords.annotations]
  · simp [PlainKeywords.values, ← hnull, PlainKeywords.annotations]

end Schema

namespace SchemaObject

theorem not_mem_names {name : String} (h : isExtensionName name = true) :
    name ∉ PlainKeywords.names := by
  have hnames : ∀ n ∈ PlainKeywords.names, isExtensionName n = false := by decide
  intro hmem
  rw [hnames name hmem] at h
  exact Bool.false_ne_true h

/-- A schema is written with the keywords of its annotations and those that its shape has. -/
theorem exists_keywords_ofSchema (s : Schema) : ∃ reference typeKeyword required,
    (ofSchema s).toPlainKeywords = { s.keywords with reference, typeKeyword, required } := by
  rcases s with ⟨a, shape⟩
  cases shape with
  | array items => cases items <;> exact ⟨_, _, _, rfl⟩
  | map value ps rs => cases value <;> exact ⟨_, _, _, rfl⟩
  | _ => exact ⟨_, _, _, rfl⟩

theorem properties_ofSchema (s : Schema) :
    (ofSchema s).properties = s.properties?.bind fun ps => nonemptyList? (ofProperties ps) := by
  rcases s with ⟨a, shape⟩
  cases shape with
  | array items => cases items <;> rfl
  | map value ps rs => cases value <;> rfl
  | _ => rfl

theorem keys_ofProperties (ps : List (String × Schema)) :
    Entries.keys (ofProperties ps) = Entries.keys ps := by
  rw [ofProperties_eq_map]
  exact Entries.keys_map (fun _ => ofSchema) ps

theorem readable_ofSchema {s : Schema} (h : s.Readable) : (ofSchema s).Readable := by
  obtain ⟨reference, typeKeyword, required, hk⟩ := exists_keywords_ofSchema s
  refine ⟨?_, fun ps hps => ?_⟩
  · rw [hk]
    refine ⟨fun vs hvs => ?_, fun v hv => ?_, h.mapping, h.nodup, fun e he => ?_⟩
    · intro v hv
      refine h.enumValues v ?_
      have hlist : nonemptyList? s.enumValues = some vs := hvs
      rwa [← getD_nonemptyList? s.enumValues, hlist]
    · have hbound : ∀ b : Bool, some v = (if b then some (.bool true) else none) → v.Distinct := by
        rintro (_ | _) hb
        · exact absurd hb (by simp)
        · exact Option.some.inj hb ▸ .bool true
      simp only [PlainKeywords.values, List.mem_cons, List.not_mem_nil, or_false] at hv
      rcases hv with hv | hv | hv | hv | hv
      · exact absurd hv (by simp [Annotations.keywords])
      · exact h.values v (.inl hv.symm)
      · exact h.values v (.inr hv.symm)
      · exact hbound _ hv
      · exact hbound _ hv
    · exact ⟨not_mem_names (h.extensions e he).1, (h.extensions e he).2⟩
  · rw [properties_ofSchema] at hps
    obtain ⟨qs, hqs, hps⟩ := Option.bind_eq_some_iff.mp hps
    have hnames : Entries.keys ps = Entries.keys qs := by
      rw [← keys_ofProperties, ← getD_nonemptyList? (ofProperties qs), hps, Option.getD_some]
    rw [hnames]
    exact h.properties qs hqs

theorem noNull_ofSchema {s : Schema} (h : s.NoNull) : (ofSchema s).NoNull := by
  obtain ⟨reference, typeKeyword, required, hk⟩ := exists_keywords_ofSchema s
  have hbound : ∀ b : Bool, some Json.null ≠ if b then some (.bool true) else none := by
    rintro (_ | _) <;> simp
  rw [hk]
  simp only [PlainKeywords.NoNull, PlainKeywords.values, List.mem_cons, List.not_mem_nil, or_false,
    not_or]
  exact ⟨by simp [Annotations.keywords], h.1.symm, h.2.symm, hbound _, hbound _⟩

end SchemaObject

namespace Schema

/-- A schema that was read is readable at every level. -/
theorem readable_of_read? {source : Source} {s : Schema} (h : read? source = some s) :
    s.Every Readable := by
  obtain ⟨o, ho, rfl⟩ := Option.map_eq_some_iff.mp h
  have hgives : SchemaObject.Gives (fun _ => True) PlainKeywords.Readable :=
    ⟨fun _ _ _ _ => trivial, fun _ _ _ _ => trivial,
      fun _ _ _ hk => PlainKeywords.readable_of_read? hk⟩
  exact every_ofObject (fun o ho => readable_ofObject ⟨ho.1, ho.2⟩)
    (SchemaObject.every_of_read? hgives source trivial o ho)

theorem noNull_of_ofJson? {j : Json} {s : Schema} (h : ofJson? j = some s) :
    s.Every fun t => t.NoNull := by
  obtain ⟨o, ho, rfl⟩ := Option.map_eq_some_iff.mp h
  have hgives : SchemaObject.Gives Source.Voidless PlainKeywords.NoNull :=
    ⟨fun _ hs => hs.of_sequence, fun _ hs => hs.of_mapping,
      fun _ _ hms hk => PlainKeywords.noNull_of_read? hms hk⟩
  exact every_ofObject (fun o ho => noNull_ofObject ho.1)
    (SchemaObject.every_of_read? hgives _ (Source.voidless_ofJson j) o ho)

theorem settled_of_read? {source : Source} {s : Schema} (h : read? source = some s) :
    s.Every Settled := by
  obtain ⟨o, -, rfl⟩ := Option.map_eq_some_iff.mp h
  exact every_ofObject (fun o _ => settled_ofObject o) o.every_true

theorem ofJson?_toJson {source : Source} {s : Schema} (h : read? source = some s)
    (hnull : s.Every fun t => t.NoNull) : ofJson? s.toJson = some s := by
  have hwritten : (SchemaObject.ofSchema s).Every fun o => o.Readable ∧ o.NoNull :=
    SchemaObject.every_ofSchema
      (fun _ ht => ⟨SchemaObject.readable_ofSchema ht.1, SchemaObject.noNull_ofSchema ht.2⟩)
      ((readable_of_read? h).and hnull)
  rw [ofJson?, read?, toJson, SchemaObject.read?_toJson hwritten, Option.map_some,
    ofObject_ofSchema (settled_of_read? h)]

/-- Reading undoes writing. What any schema object expresses is expressed by the object that writes
it. A schema that was read, from whatever tree, is read again from its JSON form if no default and
no example in it is null, and only then is an equal schema read. A schema that was read from a JSON
value always is read again. -/
theorem roundTrip_iff_noNull :
    (∀ o, ofObject (.ofSchema (ofObject o)) = ofObject o) ∧
      (∀ source s, read? source = some s →
        ((s.Every fun t => t.NoNull) → ofJson? s.toJson = some s) ∧
        ∀ t, ofJson? s.toJson = some t → same s t = true → s.Every fun t => t.NoNull) ∧
      ∀ j s, ofJson? j = some s → ofJson? s.toJson = some s := by
  refine ⟨ofObject_ofSchema_ofObject, fun source s h => ⟨ofJson?_toJson h, fun t ht hsame => ?_⟩,
    fun j s h => ofJson?_toJson h (noNull_of_ofJson? h)⟩
  exact every_of_same Annotations.noNull_of_same hsame (noNull_of_ofJson? ht)

/-- An object schema with a list of tags and free values beside it. -/
def taggedObject : Json :=
  .object [("type", .strings ["null", "object"]),
    ("properties", .object [("tags", .object [("type", .string "array"),
      ("items", .object [("const", .null)]), ("default", .array [])])]),
    ("additionalProperties", .object [("minimum", .ofNat 1), ("exclusiveMinimum", .ofNat 2)])]

/-- A schema whose default is present but has no value in JSON. -/
def voidDefault : Source :=
  .mapping [(.name "type", .string "object"), (.name "default", .void)]

theorem roundTrip_taggedObject :
    (∃ s, ofJson? taggedObject = some s ∧ ofJson? s.toJson = some s) ∧
      ∃ s t, read? voidDefault = some s ∧ ofJson? s.toJson = some t ∧ same s t = false := by
  refine ⟨⟨_, rfl, roundTrip_iff_noNull.2.2 taggedObject _ rfl⟩, _, _, rfl, rfl, ?_⟩
  refine Bool.eq_false_iff.mpr fun hsame => ?_
  exact ((roundTrip_iff_noNull.2.1 voidDefault _ rfl).2 _ rfl hsame).here.1 rfl

/-- A default that JSON cannot express is written as null, and null is read as no default. -/
theorem not_same_voidDefault : ∃ s t, read? voidDefault = some s ∧
    ofJson? s.toJson = some t ∧ same s t = false := by
  refine ⟨_, _, rfl, rfl, Bool.eq_false_iff.mpr fun hsame => ?_⟩
  exact (Annotations.noNull_of_same (same_iff.mp hsame).1 ⟨nofun, nofun⟩).1 rfl

end Schema
end ApiResolution
