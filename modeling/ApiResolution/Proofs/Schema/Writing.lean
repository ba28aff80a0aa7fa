import ApiResolution.Proofs.Schema.Object
import ApiResolution.Proofs.Source
import ApiResolution.Schema.Reader
import ApiResolution.Schema.Writer

/-!
Reading schema objects that were written. The JSON form of a schema object is the list of its
present keywords in the order of their names, followed by all other members (`toJson_eq`), so each
keyword is found again under its name (`lookup?_keyword`). Reading the form gives the schema object
back (`read?_toJson`), unless a keyword has the value null, which reading takes for its absence.
-/

namespace ApiResolution

/-- The members that are there. -/
def present (fields : List (String × Option Json)) : List (String × Json) :=
  fields.flatMap fun f => (f.2.map (f.1, ·)).toList

theorem present_append (fields more : List (String × Option Json)) :
    present (fields ++ more) = present fields ++ present more :=
  List.flatMap_append

theorem present_eq_flatten (fields : List (String × Option Json)) :
    present fields = (fields.map fun f => present [f]).flatten := by
  simp [present, List.flatMap_def]

theorem optionalMember_eq {α : Type} (name : String) (write : α → Json) (x : Option α) :
    optionalMember name write x = present [(name, x.map write)] := by
  cases x <;> rfl

theorem keys_present_sublist (fields : List (String × Option Json)) :
    (Entries.keys (present fields)).Sublist (fields.map (·.1)) := by
  induction fields with
  | nil => exact List.Sublist.refl _
  | cons f fields ih =>
    rcases f with ⟨name, x⟩
    cases x with
    | none => exact ih.cons name
    | some j => exact ih.cons_cons name

theorem lookup?_present {fields : List (String × Option Json)} (hn : (fields.map (·.1)).Nodup)
    {name : String} {x : Option Json} (h : (name, x) ∈ fields) :
    Entries.lookup? name (present fields) = x := by
  induction fields with
  | nil => simp at h
  | cons f fields ih =>
    rw [List.map_cons, List.nodup_cons] at hn
    have hcons : present (f :: fields) = (f.2.map (f.1, ·)).toList ++ present fields := rfl
    rw [hcons, Entries.lookup?_append]
    rcases List.mem_cons.mp h with rfl | h
    · have hnone : Entries.lookup? name (present fields) = none := by
        rw [Entries.lookup?_eq_none_iff]
        exact fun hmem => hn.1 ((keys_present_sublist fields).subset hmem)
      rw [hnone, Option.or_none]
      cases x <;> simp [Entries.lookup?]
    · have hne : f.1 ≠ name := fun heq => hn.1 (heq ▸ List.mem_map_of_mem h)
      rw [ih hn.2 h]
      cases f.2 <;> simp [Entries.lookup?, hne]

namespace PlainKeywords

/-- The keywords whose values are JSON values as they stand. -/
def values (k : PlainKeywords) : List (Option Json) :=
  [k.constValue, k.defaultValue, k.exampleValue, k.exclusiveMinimum, k.exclusiveMaximum]

/-- What reading gives: no mapping has a name twice, and the other members have other names than
those of keywords. -/
structure Readable (k : PlainKeywords) : Prop where
  enumValues : ∀ vs, k.enumValues = some vs → ∀ v ∈ vs, v.Distinct
  values : ∀ v, some v ∈ k.values → v.Distinct
  mapping : ∀ d, k.discriminator = some d → (Entries.keys d.mapping).Nodup
  nodup : (Entries.keys k.others).Nodup
  others : ∀ e ∈ k.others, e.1 ∉ names ∧ e.2.Distinct

/-- No keyword has the value null. -/
def NoNull (k : PlainKeywords) : Prop := some .null ∉ k.values

/-- The keywords before the further schemas, with their values. -/
def leadingFields (k : PlainKeywords) : List (String × Option Json) :=
  [("$ref", k.reference.map .string), ("type", k.typeKeyword.map TypeKeyword.toJson),
    ("format", k.format.map .string), ("title", k.title.map .string),
    ("description", k.description.map .string), ("enum", k.enumValues.map .array),
    ("const", k.constValue.map id), ("default", k.defaultValue.map id),
    ("example", k.exampleValue.map id), ("nullable", k.nullable.map .bool),
    ("readOnly", k.readOnly.map .bool), ("writeOnly", k.writeOnly.map .bool),
    ("minimum", k.minimum.map .number), ("maximum", k.maximum.map .number),
    ("exclusiveMinimum", k.exclusiveMinimum.map id),
    ("exclusiveMaximum", k.exclusiveMaximum.map id), ("multipleOf", k.multipleOf.map .number),
    ("minLength", k.minLength.map .ofNat), ("maxLength", k.maxLength.map .ofNat),
    ("pattern", k.pattern.map .string), ("minItems", k.minItems.map .ofNat),
    ("maxItems", k.maxItems.map .ofNat), ("uniqueItems", k.uniqueItems.map .bool)]

theorem leadingMembers_eq (k : PlainKeywords) : k.leadingMembers = present k.leadingFields := by
  rw [leadingMembers, leadingFields, present_eq_flatten]
  simp only [optionalMember_eq, List.map_cons, List.map_nil]

end PlainKeywords

/-- The JSON form of an `additionalProperties` keyword. -/
def SchemaObject.additionalJson : AdditionalKeyword SchemaObject → Json
  | .flag b => .bool b
  | .schema o => o.toJson

theorem PlainKeywords.nodup_names : names.Nodup := by decide

namespace SchemaObject

open PlainKeywords (names nodup_names)

/-- The keywords of a schema object, with their values. -/
def fields (o : SchemaObject) : List (String × Option Json) :=
  o.leadingFields ++
    [("items", o.items.map toJson),
      ("properties", o.properties.map fun ps => .object (entriesJson ps)),
      ("required", o.required.map .strings),
      ("additionalProperties", o.additional.map additionalJson),
      ("allOf", o.allOf.map fun os => .array (listJson os)),
      ("oneOf", o.oneOf.map fun os => .array (listJson os)),
      ("anyOf", o.anyOf.map fun os => .array (listJson os)),
      ("discriminator", o.discriminator.map Discriminator.toJson)]

theorem map_fst_fields (o : SchemaObject) : o.fields.map (·.1) = names := rfl

theorem toJson_eq (o : SchemaObject) : o.toJson = .object (present o.fields ++ o.others) := by
  have hitems : ∀ x : Option SchemaObject, itemsMember x = present [("items", x.map toJson)] := by
    intro x
    cases x <;> simp [itemsMember, present]
  have hproperties : ∀ x : Option (List (String × SchemaObject)), propertiesMember x =
      present [("properties", x.map fun ps => .object (entriesJson ps))] := by
    intro x
    cases x <;> simp [propertiesMember, present]
  have hadditional : ∀ x : Option (AdditionalKeyword SchemaObject), additionalMember x =
      present [("additionalProperties", x.map additionalJson)] := by
    intro x
    rcases x with _ | b | o <;> simp [additionalMember, additionalJson, present]
  have hbranches : ∀ name, ∀ x : Option (List SchemaObject), branchesMember name x =
      present [(name, x.map fun os => .array (listJson os))] := by
    intro name x
    cases x <;> simp [branchesMember, present]
  rcases o with ⟨k, items, properties, additional, allOf, oneOf, anyOf⟩
  rw [toJson, objectOf, PlainKeywords.leadingMembers_eq, PlainKeywords.closingMembers, hitems,
    hproperties, hadditional, hbranches, hbranches, hbranches, optionalMember_eq, optionalMember_eq,
    fields, present_append, present_eq_flatten [_, _, _, _, _, _, _, _]]
  simp only [List.map_cons, List.map_nil, List.flatten_cons, List.flatten_nil, List.append_nil,
    List.append_assoc]

theorem nodup_keys_members {o : SchemaObject} (h : o.toPlainKeywords.Readable) :
    (Entries.keys (present o.fields ++ o.others)).Nodup := by
  have hsub := keys_present_sublist o.fields
  rw [map_fst_fields] at hsub
  rw [Entries.keys_append, List.nodup_append]
  refine ⟨hsub.nodup nodup_names, h.nodup, ?_⟩
  rintro name hname _ hmem rfl
  obtain ⟨e, he, rfl⟩ := List.mem_map.mp hmem
  exact (h.others e he).1 (hsub.subset hname)

/-- The keyword at a place is found under its name. -/
theorem lookup?_keyword {o : SchemaObject} (h : o.toPlainKeywords.Readable) (i : Nat)
    {name : String} {x : Option Json} (hi : o.fields[i]? = some (name, x)) :
    Entries.lookup? name (present o.fields ++ o.others) = x := by
  have hmem := List.mem_of_getElem? hi
  have hnames : (o.fields.map (·.1)).Nodup := nodup_names
  have hnone : Entries.lookup? name o.others = none := by
    rw [Entries.lookup?_eq_none_iff]
    intro hkey
    obtain ⟨e, he, rfl⟩ := List.mem_map.mp hkey
    refine (h.others e he).1 ?_
    rw [← map_fst_fields o]
    exact List.mem_map_of_mem hmem
  rw [Entries.lookup?_append, lookup?_present hnames hmem, hnone, Option.or_none]

end SchemaObject

/-! ## Keywords without further schemas -/

theorem Discriminator.read?_toJson {d : Discriminator} (h : (Entries.keys d.mapping).Nodup) :
    read? (.ofJson d.toJson) = some d := by
  rcases d with ⟨propertyName, mapping⟩
  have hms : (Entries.keys (("propertyName", Json.string propertyName) ::
      entriesMember "mapping" .string mapping)).Nodup := by
    unfold entriesMember
    split
    · exact List.nodup_singleton _
    · simp [Entries.keys]
  have hmapping : Source.field? (Entries.mapValues Source.ofJson
      (("propertyName", Json.string propertyName) :: entriesMember "mapping" .string mapping))
      "mapping" [] (Source.entries? Source.string?) = some mapping := by
    unfold entriesMember
    cases mapping with
    | nil => rfl
    | cons e es => exact Source.field?_ofJson rfl (Source.entries?_ofJson h fun _ _ => rfl)
  rw [read?, toJson, Source.record?_ofJson _ hms]
  change (Source.field? _ "mapping" [] _).bind _ = _
  rw [hmapping]
  rfl

theorem TypeKeyword.read?_toJson (t : TypeKeyword) :
    t.toJson ≠ .null ∧ read? (.ofJson t.toJson) = some t := by
  cases t with
  | single name => exact ⟨by simp [toJson], rfl⟩
  | several ts =>
    refine ⟨by simp [toJson, Json.strings], ?_⟩
    have hread : (ts.map (Source.ofJson ∘ Json.string)).mapM Source.string? = some ts :=
      Source.mapM_map_eq_some fun _ _ => rfl
    rw [toJson, Json.strings, Source.ofJson, read?, Source.ofItems_eq_map, List.map_map, hread]
    rfl

namespace PlainKeywords

open Source (optionalField? optionalField?_ofJson)

/-- The keywords that hold no further schema are read as they were written. -/
theorem read?_present {o : SchemaObject} (h : o.toPlainKeywords.Readable)
    (hnull : o.toPlainKeywords.NoNull) :
    read? (Entries.mapValues Source.ofJson (present o.fields ++ o.others)) =
      some o.toPlainKeywords := by
  generalize hms : present o.fields ++ o.others = ms
  have hfound : ∀ (i : Nat) name x, o.fields[i]? = some (name, x) → Entries.lookup? name ms = x :=
    fun i _ _ hi => hms ▸ SchemaObject.lookup?_keyword h i hi
  have text : ∀ (i : Nat) name (x : Option String), o.fields[i]? = some (name, x.map Json.string) →
      optionalField? (Entries.mapValues Source.ofJson ms) name Source.string? = some x :=
    fun i _ _ hi => optionalField?_ofJson (hfound i _ _ hi) fun _ _ => ⟨by simp, rfl⟩
  have flag : ∀ (i : Nat) name (x : Option Bool), o.fields[i]? = some (name, x.map Json.bool) →
      optionalField? (Entries.mapValues Source.ofJson ms) name Source.bool? = some x :=
    fun i _ _ hi => optionalField?_ofJson (hfound i _ _ hi) fun _ _ => ⟨by simp, rfl⟩
  have number : ∀ (i : Nat) name (x : Option Number),
      o.fields[i]? = some (name, x.map Json.number) →
      optionalField? (Entries.mapValues Source.ofJson ms) name Source.number? = some x :=
    fun i _ _ hi => optionalField?_ofJson (hfound i _ _ hi) fun _ _ => ⟨by simp, rfl⟩
  have count : ∀ (i : Nat) name (x : Option Nat), o.fields[i]? = some (name, x.map Json.ofNat) →
      optionalField? (Entries.mapValues Source.ofJson ms) name Source.count? = some x :=
    fun i _ _ hi => optionalField?_ofJson (hfound i _ _ hi) fun _ _ =>
      ⟨by simp [Json.ofNat, Json.ofInt], by simp [Json.ofNat, Json.ofInt, Source.ofJson,
        Source.count?]⟩
  have value : ∀ (i : Nat) name (x : Option Json), o.fields[i]? = some (name, x.map id) →
      x ∈ o.toPlainKeywords.values →
      optionalField? (Entries.mapValues Source.ofJson ms) name Source.json? = some x := by
    intro i name x hi hx
    refine optionalField?_ofJson (hfound i _ _ hi) fun j hj => ?_
    rw [hj] at hx
    exact ⟨fun heq => hnull (heq ▸ hx), Source.json?_ofJson (h.values j hx)⟩
  have henum : optionalField? (Entries.mapValues Source.ofJson ms) "enum"
      (Source.list? Source.json?) = some o.enumValues := by
    have hl : Entries.lookup? "enum" ms = o.enumValues.map Json.array := hfound 5 _ _ rfl
    refine optionalField?_ofJson hl fun vs hvs => ⟨by simp, ?_⟩
    have hlist := @Source.list?_ofJson _ Source.json? id vs
      fun v hv => Source.json?_ofJson (h.enumValues vs hvs v hv)
    rwa [List.map_id] at hlist
  have hrequired : optionalField? (Entries.mapValues Source.ofJson ms) "required"
      (Source.list? Source.string?) = some o.required := by
    have hl : Entries.lookup? "required" ms = o.required.map Json.strings := hfound 25 _ _ rfl
    exact optionalField?_ofJson hl fun _ _ =>
      ⟨by simp [Json.strings], Source.list?_ofJson fun _ _ => rfl⟩
  have htype : optionalField? (Entries.mapValues Source.ofJson ms) "type" TypeKeyword.read? =
      some o.typeKeyword :=
    optionalField?_ofJson (hfound 1 _ _ rfl) fun t _ => t.read?_toJson
  have hdiscriminator : optionalField? (Entries.mapValues Source.ofJson ms) "discriminator"
      Discriminator.read? = some o.discriminator :=
    optionalField?_ofJson (hfound 30 _ _ rfl) fun d hd =>
      ⟨by simp [Discriminator.toJson], Discriminator.read?_toJson (h.mapping d hd)⟩
  have hothers : Source.others? names (Entries.mapValues Source.ofJson ms) = some o.others := by
    rw [← hms]
    refine Source.others?_ofJson (fun m hm => ?_) (fun m hm => (h.others m hm).1) h.nodup
      fun m hm => (h.others m hm).2
    have hkey := (keys_present_sublist o.fields).subset (List.mem_map_of_mem hm)
    rwa [SchemaObject.map_fst_fields] at hkey
  unfold read?
  dsimp only
  rw [text 0 "$ref" o.reference rfl, htype, text 2 "format" o.format rfl,
    text 3 "title" o.title rfl, text 4 "description" o.description rfl, henum,
    value 6 "const" o.constValue rfl (by simp [values]),
    value 7 "default" o.defaultValue rfl (by simp [values]),
    value 8 "example" o.exampleValue rfl (by simp [values]), flag 9 "nullable" o.nullable rfl,
    flag 10 "readOnly" o.readOnly rfl, flag 11 "writeOnly" o.writeOnly rfl,
    number 12 "minimum" o.minimum rfl, number 13 "maximum" o.maximum rfl,
    value 14 "exclusiveMinimum" o.exclusiveMinimum rfl (by simp [values]),
    value 15 "exclusiveMaximum" o.exclusiveMaximum rfl (by simp [values]),
    number 16 "multipleOf" o.multipleOf rfl, count 17 "minLength" o.minLength rfl,
    count 18 "maxLength" o.maxLength rfl, text 19 "pattern" o.pattern rfl,
    count 20 "minItems" o.minItems rfl, count 21 "maxItems" o.maxItems rfl,
    flag 22 "uniqueItems" o.uniqueItems rfl, hrequired, hdiscriminator, hothers]
  rfl

end PlainKeywords

/-! ## Keywords with further schemas -/

namespace SchemaObject

open PlainKeywords (names)
open Source (ofJson ofMembers)

/-- The keywords that hold further schemas. -/
def nestedNames : List String :=
  ["items", "properties", "additionalProperties", "allOf", "oneOf", "anyOf"]

theorem readNested_append (es fs : List (Key × Source)) (o : SchemaObject) :
    readNested (es ++ fs) o = (readNested es o).bind (readNested fs) := by
  induction es generalizing o with
  | nil => rfl
  | cons e es ih =>
    rcases e with ⟨k, v⟩
    rw [List.cons_append, readNested, readNested]
    split
    · exact ih o
    · cases v.bool? with
      | none => split <;> simp only [ih, Option.bind_assoc, Option.bind_eq_bind]
      | some b => split <;> simp only [ih, Option.bind_assoc, Option.bind_eq_bind]

/-- Members under other names are passed over. -/
theorem readNested_of_not_nested {ms : List (String × Json)} (h : ∀ m ∈ ms, m.1 ∉ nestedNames)
    (o : SchemaObject) : readNested (ofMembers ms) o = some o := by
  rw [Source.ofMembers_eq_map]
  induction ms with
  | nil => rfl
  | cons m ms ih =>
    have hm := h m List.mem_cons_self
    have hrest := ih fun m hm => h m (List.mem_cons_of_mem _ hm)
    simp only [nestedNames, List.mem_cons, not_or] at hm
    rw [List.map_cons, readNested]
    split
    · exact hrest
    · dsimp only [Key.name?]
      split
      case h_7 => exact hrest
      all_goals simp_all

theorem readNested_ofMembers_append (ms more : List (String × Json)) (o : SchemaObject) :
    readNested (ofMembers (ms ++ more)) o =
      (readNested (ofMembers ms) o).bind (readNested (ofMembers more)) := by
  rw [Source.ofMembers_eq_map, Source.ofMembers_eq_map, Source.ofMembers_eq_map, List.map_append,
    readNested_append]

theorem readNested_present_of_not_nested {fields : List (String × Option Json)}
    (h : ∀ name ∈ fields.map (·.1), name ∉ nestedNames) (o : SchemaObject) :
    readNested (ofMembers (present fields)) o = some o :=
  readNested_of_not_nested (fun m hm =>
    h m.1 ((keys_present_sublist fields).subset (List.mem_map_of_mem hm))) o

theorem isNull_ofJson_toJson (o : SchemaObject) : (ofJson o.toJson).isNull = false := by
  rw [toJson_eq]
  rfl

/-- Reading the form of a schema object gives it back. -/
def Restored (o : SchemaObject) : Prop := read? (ofJson o.toJson) = some o

theorem readList_listJson {os : List SchemaObject} (h : ∀ o ∈ os, Restored o) :
    readList (Source.ofItems (listJson os)) = some os := by
  induction os with
  | nil => rfl
  | cons o os ih =>
    rw [listJson, Source.ofItems, readList, h o List.mem_cons_self,
      ih fun t ht => h t (List.mem_cons_of_mem _ ht)]
    rfl

theorem readEntries_entriesJson {ps : List (String × SchemaObject)}
    (h : ∀ t ∈ ps.map (·.2), Restored t) :
    readEntries (ofMembers (entriesJson ps)) = some ps := by
  induction ps with
  | nil => rfl
  | cons p ps ih =>
    rcases p with ⟨key, o⟩
    rw [entriesJson, ofMembers, readEntries, h o List.mem_cons_self,
      ih fun t ht => h t (List.mem_cons_of_mem _ ht)]
    rfl

variable {acc : SchemaObject}

/-- Reading a keyword that may be absent sets a part, if reading its value sets it. -/
theorem readNested_present_singleton {α : Type} {name : String} {write : α → Json} {x : Option α}
    (setPart : Option α → SchemaObject) (hnone : setPart none = acc)
    (hsome : ∀ a, x = some a →
      readNested [(.name name, ofJson (write a))] acc = some (setPart (some a))) :
    readNested (ofMembers (present [(name, x.map write)])) acc = some (setPart x) := by
  cases x with
  | none => exact congrArg some hnone.symm
  | some a => exact hsome a rfl

theorem readNested_items {x : Option SchemaObject} (h : ∀ o ∈ x, Restored o)
    (hacc : acc.items = none) :
    readNested (ofMembers (present [("items", x.map toJson)])) acc =
      some { acc with items := x } := by
  refine readNested_present_singleton (fun x => { acc with items := x })
    (by cases acc; cases hacc; rfl) fun o ho => ?_
  rw [readNested, isNull_ofJson_toJson, if_neg Bool.false_ne_true]
  dsimp only [Key.name?]
  rw [h o ho]
  rfl

theorem readNested_properties {x : Option (List (String × SchemaObject))}
    (hn : ∀ ps, x = some ps → (Entries.keys ps).Nodup)
    (h : ∀ o ∈ (x.getD []).map (·.2), Restored o) (hacc : acc.properties = none) :
    readNested (ofMembers (present
        [("properties", x.map fun ps => .object (entriesJson ps))])) acc =
      some { acc with properties := x } := by
  refine readNested_present_singleton (fun x => { acc with properties := x })
    (by cases acc; cases hacc; rfl) fun ps hps => ?_
  rw [hps, Option.getD_some] at h
  rw [readNested, if_neg (by simp [Source.isNull, ofJson])]
  dsimp only [Key.name?]
  rw [ofJson, readProperties, readEntries_entriesJson h, Option.map_some,
    Entries.ofList_eq_self (hn ps hps)]
  rfl

theorem readNested_additional {x : Option (AdditionalKeyword SchemaObject)}
    (h : ∀ o ∈ x.bind (·.schema?), Restored o) (hacc : acc.additional = none) :
    readNested (ofMembers (present [("additionalProperties", x.map additionalJson)])) acc =
      some { acc with additional := x } := by
  refine readNested_present_singleton (fun x => { acc with additional := x })
    (by cases acc; cases hacc; rfl) fun a ha => ?_
  rw [ha] at h
  cases a with
  | flag b => rfl
  | schema o =>
    have hflag : (ofJson o.toJson).bool? = none := by
      rw [toJson_eq]
      rfl
    rw [additionalJson, readNested, isNull_ofJson_toJson, if_neg Bool.false_ne_true]
    dsimp only [Key.name?]
    rw [hflag, h o rfl]
    rfl

/-- Reading a keyword for branches sets a part, if branches that are read set it. -/
theorem readNested_branches {name : String} {x : Option (List SchemaObject)}
    (setPart : Option (List SchemaObject) → SchemaObject) (hnone : setPart none = acc)
    (hsome : ∀ xs, readNested [(.name name, .sequence xs)] acc =
      (readList xs).map fun os => setPart (some os))
    (h : ∀ o ∈ x.getD [], Restored o) :
    readNested (ofMembers (present [(name, x.map fun os => .array (listJson os))])) acc =
      some (setPart x) := by
  refine readNested_present_singleton setPart hnone fun os hos => ?_
  rw [hos, Option.getD_some] at h
  rw [ofJson, hsome, readList_listJson h, Option.map_some]

theorem bind_readBranches {setPart : List SchemaObject → SchemaObject} (xs : List Source) :
    (readBranches (.sequence xs)).bind (fun os => readNested [] (setPart os)) =
      (readList xs).map setPart := by
  rw [readBranches]
  cases readList xs <;> rfl

theorem readNested_allOf {x : Option (List SchemaObject)} (h : ∀ o ∈ x.getD [], Restored o)
    (hacc : acc.allOf = none) :
    readNested (ofMembers (present [("allOf", x.map fun os => .array (listJson os))])) acc =
      some { acc with allOf := x } :=
  readNested_branches (fun x => { acc with allOf := x }) (by cases acc; cases hacc; rfl)
    bind_readBranches h

theorem readNested_oneOf {x : Option (List SchemaObject)} (h : ∀ o ∈ x.getD [], Restored o)
    (hacc : acc.oneOf = none) :
    readNested (ofMembers (present [("oneOf", x.map fun os => .array (listJson os))])) acc =
      some { acc with oneOf := x } :=
  readNested_branches (fun x => { acc with oneOf := x }) (by cases acc; cases hacc; rfl)
    bind_readBranches h

theorem readNested_anyOf {x : Option (List SchemaObject)} (h : ∀ o ∈ x.getD [], Restored o)
    (hacc : acc.anyOf = none) :
    readNested (ofMembers (present [("anyOf", x.map fun os => .array (listJson os))])) acc =
      some { acc with anyOf := x } :=
  readNested_branches (fun x => { acc with anyOf := x }) (by cases acc; cases hacc; rfl)
    bind_readBranches h

/-- What reading gives: the keywords are readable and no property is there twice. -/
structure Readable (o : SchemaObject) : Prop where
  keywords : o.toPlainKeywords.Readable
  properties : ∀ ps, o.properties = some ps → (Entries.keys ps).Nodup

theorem readNested_present {o : SchemaObject} (h : o.Readable)
    (hinside : ∀ t ∈ o.parts, Restored t) :
    readNested (ofMembers (present o.fields ++ o.others)) { o.toPlainKeywords with } = some o := by
  simp only [parts, List.mem_append] at hinside
  have hcons : ∀ f fs, present (f :: fs) = present [f] ++ present fs := fun f fs =>
    present_append [f] fs
  have hleading : ∀ name ∈ o.leadingFields.map (·.1), name ∉ nestedNames := by
    change ∀ name ∈ names.take 23, name ∉ nestedNames
    decide
  have hothers : ∀ m ∈ o.others, m.1 ∉ nestedNames := by
    intro m hm hname
    have hsub : nestedNames ⊆ names := by decide
    exact (h.keywords.others m hm).1 (hsub hname)
  rw [fields, present_append, hcons ("items", _), hcons ("properties", _), hcons ("required", _),
    hcons ("additionalProperties", _), hcons ("allOf", _), hcons ("oneOf", _), hcons ("anyOf", _)]
  simp only [List.append_assoc]
  rw [readNested_ofMembers_append, readNested_present_of_not_nested hleading, Option.bind_some,
    readNested_ofMembers_append, readNested_items (fun t ht => hinside t
      (.inl (.inl (.inl (.inl (.inl (Option.mem_toList.mpr ht))))))) rfl, Option.bind_some,
    readNested_ofMembers_append, readNested_properties h.properties (fun t ht => hinside t
      (.inl (.inl (.inl (.inl (.inr ht)))))) rfl, Option.bind_some,
    readNested_ofMembers_append, readNested_present_of_not_nested (by simp [nestedNames]),
    Option.bind_some,
    readNested_ofMembers_append, readNested_additional (fun t ht => hinside t
      (.inl (.inl (.inl (.inr (Option.mem_toList.mpr ht)))))) rfl, Option.bind_some,
    readNested_ofMembers_append,
    readNested_allOf (fun t ht => hinside t (.inl (.inl (.inr ht)))) rfl, Option.bind_some,
    readNested_ofMembers_append,
    readNested_oneOf (fun t ht => hinside t (.inl (.inr ht))) rfl, Option.bind_some,
    readNested_ofMembers_append,
    readNested_anyOf (fun t ht => hinside t (.inr ht)) rfl, Option.bind_some,
    readNested_ofMembers_append, readNested_present_of_not_nested (by simp [nestedNames]),
    Option.bind_some,
    readNested_of_not_nested hothers]
  cases o
  rfl

/-- A schema object that was written is read back, if it is readable and no keyword has the value
null. -/
theorem read?_toJson {o : SchemaObject}
    (h : o.Every fun o => o.Readable ∧ o.toPlainKeywords.NoNull) :
    read? (ofJson o.toJson) = some o := by
  induction h with
  | @node o here _ ih =>
    have hrecord := Source.openRecord?_ofJson names (nodup_keys_members here.1.keywords)
    rw [toJson_eq]
    rw [ofJson] at hrecord ⊢
    rw [read?, hrecord]
    change (PlainKeywords.read? _).bind _ = _
    rw [PlainKeywords.read?_present here.1.keywords here.2, Option.bind_some]
    exact readNested_present here.1 ih

end SchemaObject
end ApiResolution
