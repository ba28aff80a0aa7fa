import ApiResolution.Proofs.Schema.Writing

/-!
What reading a schema object gives. Its keywords are readable again, at every level
(`readable_of_read?`), and from a tree with nothing void in it no keyword is read as null
(`noNull_of_read?`). Both go through the whole tree in the same way (`every_of_read?`), with a
property of trees that their parts have too.
-/

namespace ApiResolution

theorem Discriminator.nodup_mapping_of_read? {source : Source} {d : Discriminator}
    (h : read? source = some d) : (Entries.keys d.mapping).Nodup := by
  unfold read? at h
  simp only [Option.bind_eq_bind, Option.bind_eq_some_iff] at h
  obtain ⟨ms, -, _, -, mapping, hmapping, h⟩ := h
  obtain rfl := Option.some.inj h
  rcases Source.field?_eq_some hmapping with rfl | ⟨_, hread⟩
  · exact List.nodup_nil
  · exact Source.nodup_keys_entries? hread

namespace PlainKeywords

/-- What the members of a record give to the keywords whose values hold JSON values or names. -/
theorem of_read? {ms : List (String × Source)} {k : PlainKeywords} (h : read? ms = some k) :
    Source.optionalField? ms "enum" (Source.list? Source.json?) = some k.enumValues ∧
      (∀ v, some v ∈ k.values → ∃ m ∈ ms, m.2 ≠ .null ∧ m.2.json? = some v) ∧
      Source.optionalField? ms "discriminator" Discriminator.read? = some k.discriminator ∧
      Source.others? names ms = some k.others := by
  unfold read? at h
  -- one keyword a line, in the order in which they are read
  obtain ⟨_, -, h⟩ := Option.bind_eq_some_iff.mp h
  obtain ⟨_, -, h⟩ := Option.bind_eq_some_iff.mp h
  obtain ⟨_, -, h⟩ := Option.bind_eq_some_iff.mp h
  obtain ⟨_, -, h⟩ := Option.bind_eq_some_iff.mp h
  obtain ⟨_, -, h⟩ := Option.bind_eq_some_iff.mp h
  obtain ⟨_, henum, h⟩ := Option.bind_eq_some_iff.mp h
  obtain ⟨_, hconst, h⟩ := Option.bind_eq_some_iff.mp h
  obtain ⟨_, hdefault, h⟩ := Option.bind_eq_some_iff.mp h
  obtain ⟨_, hexample, h⟩ := Option.bind_eq_some_iff.mp h
  obtain ⟨_, -, h⟩ := Option.bind_eq_some_iff.mp h
  obtain ⟨_, -, h⟩ := Option.bind_eq_some_iff.mp h
  obtain ⟨_, -, h⟩ := Option.bind_eq_some_iff.mp h
  obtain ⟨_, -, h⟩ := Option.bind_eq_some_iff.mp h
  obtain ⟨_, -, h⟩ := Option.bind_eq_some_iff.mp h
  obtain ⟨_, hexclusiveMinimum, h⟩ := Option.bind_eq_some_iff.mp h
  obtain ⟨_, hexclusiveMaximum, h⟩ := Option.bind_eq_some_iff.mp h
  obtain ⟨_, -, h⟩ := Option.bind_eq_some_iff.mp h
  obtain ⟨_, -, h⟩ := Option.bind_eq_some_iff.mp h
  obtain ⟨_, -, h⟩ := Option.bind_eq_some_iff.mp h
  obtain ⟨_, -, h⟩ := Option.bind_eq_some_iff.mp h
  obtain ⟨_, -, h⟩ := Option.bind_eq_some_iff.mp h
  obtain ⟨_, -, h⟩ := Option.bind_eq_some_iff.mp h
  obtain ⟨_, -, h⟩ := Option.bind_eq_some_iff.mp h
  obtain ⟨_, -, h⟩ := Option.bind_eq_some_iff.mp h
  obtain ⟨_, hdiscriminator, h⟩ := Option.bind_eq_some_iff.mp h
  obtain ⟨_, hothers, h⟩ := Option.bind_eq_some_iff.mp h
  obtain rfl := Option.some.inj h
  refine ⟨henum, fun v hv => ?_, hdiscriminator, hothers⟩
  simp only [values, List.mem_cons, List.not_mem_nil, or_false] at hv
  rcases hv with rfl | rfl | rfl | rfl | rfl
  · exact Source.exists_of_optionalField? hconst
  · exact Source.exists_of_optionalField? hdefault
  · exact Source.exists_of_optionalField? hexample
  · exact Source.exists_of_optionalField? hexclusiveMinimum
  · exact Source.exists_of_optionalField? hexclusiveMaximum

/-- The keywords that are read are readable. -/
theorem readable_of_read? {ms : List (String × Source)} {k : PlainKeywords}
    (h : read? ms = some k) : k.Readable := by
  obtain ⟨henum, hvalues, hdiscriminator, hothers⟩ := of_read? h
  refine ⟨fun vs hvs v hv => ?_, fun v hv => ?_, fun d hd => ?_, (Source.of_others? hothers).1,
    (Source.of_others? hothers).2⟩
  · rw [hvs] at henum
    obtain ⟨m, -, -, hread⟩ := Source.exists_of_optionalField? henum
    obtain ⟨x, hx⟩ := Source.exists_of_mem_list? hread hv
    exact Source.distinct_of_json? x v hx
  · obtain ⟨m, -, -, hread⟩ := hvalues v hv
    exact Source.distinct_of_json? m.2 v hread
  · rw [hd] at hdiscriminator
    obtain ⟨m, -, -, hread⟩ := Source.exists_of_optionalField? hdiscriminator
    exact Discriminator.nodup_mapping_of_read? hread

/-- From members with nothing void in them no keyword is read as null. -/
theorem noNull_of_read? {ms : List (String × Source)} {k : PlainKeywords}
    (hms : ∀ m ∈ ms, m.2.Voidless) (h : read? ms = some k) : k.NoNull := by
  intro hnull
  obtain ⟨m, hm, hne, hread⟩ := (of_read? h).2.1 .null hnull
  exact hne (Source.eq_null_of_json? (hms m hm) hread)

end PlainKeywords

namespace SchemaObject

/-- What holds of all parts directly inside a schema object, no property of which is there twice. -/
structure PartsHold (holds : SchemaObject → Prop) (o : SchemaObject) : Prop where
  items : ∀ t, o.items = some t → holds t
  properties : ∀ ps, o.properties = some ps → (Entries.keys ps).Nodup ∧ ∀ p ∈ ps, holds p.2
  additional : ∀ a, o.additional = some a → ∀ t, a.schema? = some t → holds t
  allOf : ∀ os, o.allOf = some os → ∀ t ∈ os, holds t
  oneOf : ∀ os, o.oneOf = some os → ∀ t ∈ os, holds t
  anyOf : ∀ os, o.anyOf = some os → ∀ t ∈ os, holds t

theorem PartsHold.of_mem_parts {holds : SchemaObject → Prop} {o t : SchemaObject}
    (h : PartsHold holds o) (ht : t ∈ o.parts) : holds t := by
  unfold parts at ht
  simp only [List.mem_append, Option.mem_toList] at ht
  have hbranches : ∀ {x : Option (List SchemaObject)}, (∀ os, x = some os → ∀ t ∈ os, holds t) →
      t ∈ x.getD [] → holds t := by
    intro x hx ht
    cases x with
    | none => simp at ht
    | some os => exact hx os rfl t ht
  rcases ht with ((((ht | ht) | ht) | ht) | ht) | ht
  · exact h.items t ht
  · cases hps : o.properties with
    | none => simp [hps] at ht
    | some ps =>
      rw [hps, Option.getD_some] at ht
      obtain ⟨p, hp, rfl⟩ := List.mem_map.mp ht
      exact (h.properties ps hps).2 p hp
  · obtain ⟨a, ha, ht⟩ := Option.bind_eq_some_iff.mp ht
    exact h.additional a ha t ht
  · exact hbranches h.allOf ht
  · exact hbranches h.oneOf ht
  · exact hbranches h.anyOf ht

/-- A property of trees that their parts have, and what it gives to keywords that are read. -/
structure Gives (good : Source → Prop) (holds : PlainKeywords → Prop) : Prop where
  sequence : ∀ xs, good (.sequence xs) → ∀ x ∈ xs, good x
  mapping : ∀ es, good (.mapping es) → ∀ e ∈ es, good e.2
  keywords : ∀ ms k, (∀ m ∈ ms, good m.2) → PlainKeywords.read? ms = some k → holds k

/-- A schema object has keywords of a kind, and no property is there twice. -/
def Tidy (holds : PlainKeywords → Prop) (o : SchemaObject) : Prop :=
  holds o.toPlainKeywords ∧ ∀ ps, o.properties = some ps → (Entries.keys ps).Nodup

variable {good : Source → Prop} {holds : PlainKeywords → Prop}

-- The recursion is that of reading. Its invariant is about the object that is being built: the parts
-- that it has so far are tidy, and its keywords are those that were read first.
mutual

theorem every_of_read? (h : Gives good holds) :
    (s : Source) → good s → ∀ o, read? s = some o → o.Every (Tidy holds)
  | .mapping es, hs, o, ho => by
    rw [read?] at ho
    obtain ⟨ms, hms, ho⟩ := Option.bind_eq_some_iff.mp ho
    obtain ⟨k, hk, ho⟩ := Option.bind_eq_some_iff.mp ho
    have hes := h.mapping es hs
    have hgood : ∀ m ∈ ms, good m.2 := by
      intro m hm
      obtain ⟨e, he, heq⟩ := Source.exists_of_mem_openRecord? hms hm
      exact heq ▸ hes e he
    obtain ⟨hkeywords, hparts⟩ := partsHold_of_readNested h es hes { k with }
      ⟨by simp, by simp, by simp, by simp, by simp, by simp⟩ o ho
    refine .node ⟨?_, fun ps hps => (hparts.properties ps hps).1⟩ fun t ht => hparts.of_mem_parts ht
    rw [hkeywords]
    exact h.keywords ms k hgood hk
  | .null, _, _, ho => absurd ho (by simp [read?])
  | .void, _, _, ho => absurd ho (by simp [read?])
  | .bool _, _, _, ho => absurd ho (by simp [read?])
  | .number _, _, _, ho => absurd ho (by simp [read?])
  | .string _, _, _, ho => absurd ho (by simp [read?])
  | .sequence _, _, _, ho => absurd ho (by simp [read?])

theorem partsHold_of_readNested (h : Gives good holds) :
    (es : List (Key × Source)) → (∀ e ∈ es, good e.2) → ∀ acc,
      PartsHold (Every (Tidy holds)) acc → ∀ o, readNested es acc = some o →
      o.toPlainKeywords = acc.toPlainKeywords ∧ PartsHold (Every (Tidy holds)) o
  | [], _, acc, hacc, o, ho => by
    rw [readNested] at ho
    obtain rfl := Option.some.inj ho
    exact ⟨rfl, hacc⟩
  | (k, v) :: es, hes, acc, hacc, o, ho => by
    have hv : good v := hes (k, v) List.mem_cons_self
    have hrest : ∀ e ∈ es, good e.2 := fun e he => hes e (List.mem_cons_of_mem _ he)
    rw [readNested] at ho
    split at ho
    · exact partsHold_of_readNested h es hrest acc hacc o ho
    · split at ho
      · obtain ⟨t, ht, ho⟩ := Option.bind_eq_some_iff.mp ho
        refine partsHold_of_readNested h es hrest { acc with items := some t } ?_ o ho
        exact { hacc with items := fun t' ht' => Option.some.inj ht' ▸ every_of_read? h v hv t ht }
      · obtain ⟨ps, hps, ho⟩ := Option.bind_eq_some_iff.mp ho
        refine partsHold_of_readNested h es hrest { acc with properties := some ps } ?_ o ho
        exact { hacc with
          properties := fun ps' hps' => Option.some.inj hps' ▸ of_readProperties h v hv ps hps }
      · cases hb : v.bool? with
        | some b =>
          rw [hb] at ho
          refine partsHold_of_readNested h es hrest
            { acc with additional := some (.flag b) } ?_ o ho
          exact { hacc with
            additional := fun a ha t ht => absurd ht (by simp [← Option.some.inj ha,
              AdditionalKeyword.schema?]) }
        | none =>
          rw [hb] at ho
          obtain ⟨a, ha, ho⟩ := Option.bind_eq_some_iff.mp ho
          obtain ⟨t, ht, rfl⟩ := Option.map_eq_some_iff.mp ha
          refine partsHold_of_readNested h es hrest
            { acc with additional := some (.schema t) } ?_ o ho
          refine { hacc with additional := fun a' ha' t' ht' => ?_ }
          rw [← Option.some.inj ha'] at ht'
          exact Option.some.inj ht' ▸ every_of_read? h v hv t ht
      · obtain ⟨os, hos, ho⟩ := Option.bind_eq_some_iff.mp ho
        refine partsHold_of_readNested h es hrest { acc with allOf := some os } ?_ o ho
        exact { hacc with
          allOf := fun os' hos' => Option.some.inj hos' ▸ every_of_readBranches h v hv os hos }
      · obtain ⟨os, hos, ho⟩ := Option.bind_eq_some_iff.mp ho
        refine partsHold_of_readNested h es hrest { acc with oneOf := some os } ?_ o ho
        exact { hacc with
          oneOf := fun os' hos' => Option.some.inj hos' ▸ every_of_readBranches h v hv os hos }
      · obtain ⟨os, hos, ho⟩ := Option.bind_eq_some_iff.mp ho
        refine partsHold_of_readNested h es hrest { acc with anyOf := some os } ?_ o ho
        exact { hacc with
          anyOf := fun os' hos' => Option.some.inj hos' ▸ every_of_readBranches h v hv os hos }
      · exact partsHold_of_readNested h es hrest acc hacc o ho

theorem every_of_readBranches (h : Gives good holds) :
    (s : Source) → good s → ∀ os, readBranches s = some os → ∀ o ∈ os, o.Every (Tidy holds)
  | .sequence xs, hs, os, hos => every_of_readList h xs (h.sequence xs hs) os hos
  | .null, _, _, hos => absurd hos (by simp [readBranches])
  | .void, _, _, hos => absurd hos (by simp [readBranches])
  | .bool _, _, _, hos => absurd hos (by simp [readBranches])
  | .number _, _, _, hos => absurd hos (by simp [readBranches])
  | .string _, _, _, hos => absurd hos (by simp [readBranches])
  | .mapping _, _, _, hos => absurd hos (by simp [readBranches])

theorem every_of_readList (h : Gives good holds) :
    (xs : List Source) → (∀ x ∈ xs, good x) → ∀ os, readList xs = some os →
      ∀ o ∈ os, o.Every (Tidy holds)
  | [], _, os, hos, o, ho => absurd ho (by simp [← Option.some.inj hos])
  | x :: xs, hxs, os, hos, o, ho => by
    rw [readList] at hos
    obtain ⟨first, hfirst, hos⟩ := Option.bind_eq_some_iff.mp hos
    obtain ⟨rest, hrest, hos⟩ := Option.bind_eq_some_iff.mp hos
    obtain rfl := Option.some.inj hos
    rcases List.mem_cons.mp ho with rfl | ho
    · exact every_of_read? h x (hxs x List.mem_cons_self) o hfirst
    · exact every_of_readList h xs (fun y hy => hxs y (List.mem_cons_of_mem _ hy)) rest hrest o ho

theorem of_readProperties (h : Gives good holds) :
    (s : Source) → good s → ∀ ps, readProperties s = some ps →
      (Entries.keys ps).Nodup ∧ ∀ p ∈ ps, p.2.Every (Tidy holds)
  | .mapping es, hs, ps, hps => by
    rw [readProperties] at hps
    obtain ⟨read, hread, rfl⟩ := Option.map_eq_some_iff.mp hps
    exact ⟨Entries.nodup_keys_ofList read, fun p hp =>
      every_of_readEntries h es (h.mapping es hs) read hread p (Entries.mem_of_mem_ofList hp)⟩
  | .null, _, _, hps => absurd hps (by simp [readProperties])
  | .void, _, _, hps => absurd hps (by simp [readProperties])
  | .bool _, _, _, hps => absurd hps (by simp [readProperties])
  | .number _, _, _, hps => absurd hps (by simp [readProperties])
  | .string _, _, _, hps => absurd hps (by simp [readProperties])
  | .sequence _, _, _, hps => absurd hps (by simp [readProperties])

theorem every_of_readEntries (h : Gives good holds) :
    (es : List (Key × Source)) → (∀ e ∈ es, good e.2) → ∀ ps, readEntries es = some ps →
      ∀ p ∈ ps, p.2.Every (Tidy holds)
  | [], _, ps, hps, p, hp => absurd hp (by simp [← Option.some.inj hps])
  | (k, v) :: es, hes, ps, hps, p, hp => by
    rw [readEntries] at hps
    obtain ⟨key, -, hps⟩ := Option.bind_eq_some_iff.mp hps
    obtain ⟨first, hfirst, hps⟩ := Option.bind_eq_some_iff.mp hps
    obtain ⟨rest, hrest, hps⟩ := Option.bind_eq_some_iff.mp hps
    obtain rfl := Option.some.inj hps
    rcases List.mem_cons.mp hp with rfl | hp
    · exact every_of_read? h v (hes (k, v) List.mem_cons_self) first hfirst
    · exact every_of_readEntries h es (fun e he => hes e (List.mem_cons_of_mem _ he)) rest hrest p
        hp

end

end SchemaObject
end ApiResolution
