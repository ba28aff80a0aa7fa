import ApiResolution.Proofs.Entries
import ApiResolution.Source

/-!
Reading what was written as JSON. The JSON values that are read from a tree have no member twice
(`distinct_of_json?`), and such a value is read again from its own tree (`json?_ofJson`). The tree
of a JSON value has nothing void in it (`voidless_ofJson`), so only null is read from it as null. For
lists, mappings and fields, reading undoes writing as soon as it does so for their parts.
-/

namespace ApiResolution

/-- No object in a JSON value has a member twice. -/
inductive Json.Distinct : Json → Prop
  | null : Distinct .null
  | bool (b : Bool) : Distinct (.bool b)
  | number (n : Number) : Distinct (.number n)
  | string (s : String) : Distinct (.string s)
  | array {xs : List Json} (h : ∀ x ∈ xs, Distinct x) : Distinct (.array xs)
  | object {ms : List (String × Json)} (hn : (Entries.keys ms).Nodup)
      (h : ∀ m ∈ ms, Distinct m.2) : Distinct (.object ms)

namespace Source

/-- Nothing in a tree is void. -/
inductive Voidless : Source → Prop
  | null : Voidless .null
  | bool (b : Bool) : Voidless (.bool b)
  | number (n : Number) : Voidless (.number n)
  | string (s : String) : Voidless (.string s)
  | sequence {xs : List Source} (h : ∀ x ∈ xs, Voidless x) : Voidless (.sequence xs)
  | mapping {es : List (Key × Source)} (h : ∀ e ∈ es, Voidless e.2) : Voidless (.mapping es)

theorem Voidless.of_sequence {xs : List Source} (h : Voidless (.sequence xs)) :
    ∀ x ∈ xs, x.Voidless := by
  cases h with
  | sequence h => exact h

theorem Voidless.of_mapping {es : List (Key × Source)} (h : Voidless (.mapping es)) :
    ∀ e ∈ es, e.2.Voidless := by
  cases h with
  | mapping h => exact h

theorem ofItems_eq_map (xs : List Json) : ofItems xs = xs.map ofJson := by
  induction xs with
  | nil => rfl
  | cons x xs ih => rw [ofItems, ih, List.map_cons]

theorem ofMembers_eq_map (ms : List (String × Json)) :
    ofMembers ms = ms.map fun m => (.name m.1, ofJson m.2) := by
  induction ms with
  | nil => rfl
  | cons m ms ih => rw [ofMembers, ih, List.map_cons]

/-! ## JSON values in trees -/

mutual

theorem voidless_ofJson : (j : Json) → (ofJson j).Voidless
  | .null => .null
  | .bool b => .bool b
  | .number n => .number n
  | .string s => .string s
  | .array xs => .sequence (voidless_ofItems xs)
  | .object ms => .mapping (voidless_ofMembers ms)

theorem voidless_ofItems : (xs : List Json) → ∀ s ∈ ofItems xs, s.Voidless
  | [], _, h => absurd h (by simp [ofItems])
  | x :: xs, s, h => by
    rcases List.mem_cons.mp h with rfl | h
    · exact voidless_ofJson x
    · exact voidless_ofItems xs s h

theorem voidless_ofMembers : (ms : List (String × Json)) → ∀ e ∈ ofMembers ms, e.2.Voidless
  | [], _, h => absurd h (by simp [ofMembers])
  | (k, v) :: ms, e, h => by
    rcases List.mem_cons.mp h with rfl | h
    · exact voidless_ofJson v
    · exact voidless_ofMembers ms e h

end

theorem jsonItems?_eq_mapM (xs : List Source) : jsonItems? xs = xs.mapM json? := by
  induction xs with
  | nil => rfl
  | cons x xs ih => rw [jsonItems?, ih, List.mapM_cons]

theorem jsonMembers?_eq_mapM (es : List (Key × Source)) :
    jsonMembers? es = es.mapM fun e => e.1.name?.bind fun key => (json? e.2).map (key, ·) := by
  induction es with
  | nil => rfl
  | cons e es ih =>
    rw [jsonMembers?, ih, List.mapM_cons]
    cases e.1.name? <;> cases json? e.2 <;> rfl

mutual

theorem distinct_of_json? : (s : Source) → ∀ j, json? s = some j → j.Distinct
  | .null, _, h => Option.some.inj h ▸ .null
  | .void, _, h => Option.some.inj h ▸ .null
  | .bool b, _, h => Option.some.inj h ▸ .bool b
  | .number n, _, h => Option.some.inj h ▸ .number n
  | .string s, _, h => Option.some.inj h ▸ .string s
  | .sequence xs, j, h => by
    obtain ⟨js, hjs, rfl⟩ := Option.map_eq_some_iff.mp h
    exact .array (distinct_of_jsonItems? xs js hjs)
  | .mapping es, j, h => by
    obtain ⟨ms, hms, rfl⟩ := Option.map_eq_some_iff.mp h
    exact .object (Entries.nodup_keys_ofList ms) fun m hm =>
      distinct_of_jsonMembers? es ms hms m (Entries.mem_of_mem_ofList hm)

theorem distinct_of_jsonItems? :
    (xs : List Source) → ∀ js, jsonItems? xs = some js → ∀ j ∈ js, j.Distinct
  | [], _, h, j, hj => absurd hj (by simp [← Option.some.inj h])
  | x :: xs, js, h, j, hj => by
    obtain ⟨first, hfirst, h⟩ := Option.bind_eq_some_iff.mp h
    obtain ⟨rest, hrest, h⟩ := Option.bind_eq_some_iff.mp h
    obtain rfl := Option.some.inj h
    rcases List.mem_cons.mp hj with rfl | hj
    · exact distinct_of_json? x j hfirst
    · exact distinct_of_jsonItems? xs rest hrest j hj

theorem distinct_of_jsonMembers? : (es : List (Key × Source)) → ∀ ms, jsonMembers? es = some ms →
    ∀ m ∈ ms, m.2.Distinct
  | [], _, h, m, hm => absurd hm (by simp [← Option.some.inj h])
  | (k, v) :: es, ms, h, m, hm => by
    obtain ⟨key, -, h⟩ := Option.bind_eq_some_iff.mp h
    obtain ⟨first, hfirst, h⟩ := Option.bind_eq_some_iff.mp h
    obtain ⟨rest, hrest, h⟩ := Option.bind_eq_some_iff.mp h
    obtain rfl := Option.some.inj h
    rcases List.mem_cons.mp hm with rfl | hm
    · exact distinct_of_json? v first hfirst
    · exact distinct_of_jsonMembers? es rest hrest m hm

end

theorem mapM_map_eq_some {α β : Type} {read : α → Option β} {write : β → α} {xs : List β}
    (h : ∀ x ∈ xs, read (write x) = some x) : (xs.map write).mapM read = some xs := by
  induction xs with
  | nil => rfl
  | cons x xs ih =>
    rw [List.map_cons, List.mapM_cons, h x List.mem_cons_self,
      ih fun y hy => h y (List.mem_cons_of_mem _ hy)]
    rfl

theorem exists_of_mem_mapM {α β : Type} {f : α → Option β} {xs : List α} {ys : List β}
    (h : xs.mapM f = some ys) {y : β} (hy : y ∈ ys) : ∃ x ∈ xs, f x = some y := by
  induction xs generalizing ys with
  | nil =>
    obtain rfl : ys = [] := by simpa using h.symm
    simp at hy
  | cons x xs ih =>
    rw [List.mapM_cons] at h
    obtain ⟨first, hfirst, h⟩ := Option.bind_eq_some_iff.mp h
    obtain ⟨rest, hrest, h⟩ := Option.bind_eq_some_iff.mp h
    obtain rfl := Option.some.inj h
    rcases List.mem_cons.mp hy with rfl | hy
    · exact ⟨x, List.mem_cons_self, hfirst⟩
    · obtain ⟨x', hx', hy'⟩ := ih hrest hy
      exact ⟨x', List.mem_cons_of_mem _ hx', hy'⟩

/-- A JSON value without repeated members is read from its tree. -/
theorem json?_ofJson {j : Json} (h : j.Distinct) : json? (ofJson j) = some j := by
  induction h with
  | array _ ih =>
    rw [ofJson, json?, jsonItems?_eq_mapM, ofItems_eq_map, mapM_map_eq_some ih]
    rfl
  | @object ms hn _ ih =>
    have hmembers : jsonMembers? (ofMembers ms) = some ms := by
      rw [jsonMembers?_eq_mapM, ofMembers_eq_map]
      refine mapM_map_eq_some fun m hm => ?_
      rw [ih m hm]
      rfl
    rw [ofJson, json?, hmembers, Option.map_some, Entries.ofList_eq_self hn]
  | _ => rfl

/-- Only null is read as null from a tree with nothing void in it. -/
theorem eq_null_of_json? {s : Source} (hs : s.Voidless) (h : json? s = some .null) : s = .null := by
  cases hs with
  | null => rfl
  | sequence _ => obtain ⟨_, -, h⟩ := Option.map_eq_some_iff.mp h; exact absurd h (by simp)
  | mapping _ => obtain ⟨_, -, h⟩ := Option.map_eq_some_iff.mp h; exact absurd h (by simp)
  | _ => exact absurd h (by simp [json?])

/-! ## What was read -/

theorem nodup_keys_entries? {α : Type} {read : Source → Option α} {source : Source} {es : Entries α}
    (h : entries? read source = some es) : (Entries.keys es).Nodup := by
  unfold entries? at h
  obtain ⟨ms, -, h⟩ := Option.bind_eq_some_iff.mp h
  obtain ⟨built, -, h⟩ := Option.bind_eq_some_iff.mp h
  obtain rfl := Option.some.inj h
  exact Entries.nodup_keys_ofList built

theorem field?_eq_some {α : Type} {ms : List (String × Source)} {name : String} {missing a : α}
    {read : Source → Option α} (h : field? ms name missing read = some a) :
    a = missing ∨ ∃ source, read source = some a := by
  unfold field? at h
  split at h
  · next source _ => exact .inr ⟨source, h⟩
  · exact .inl (Option.some.inj h).symm

theorem exists_of_mem_list? {α : Type} {read : Source → Option α} {source : Source} {xs : List α}
    (h : list? read source = some xs) {a : α} (ha : a ∈ xs) : ∃ s, read s = some a := by
  unfold list? at h
  split at h
  · obtain ⟨s, -, hs⟩ := exists_of_mem_mapM h ha
    exact ⟨s, hs⟩
  · exact absurd h (by simp)

theorem exists_of_mem_entries? {α : Type} {read : Source → Option α} {source : Source}
    {es : Entries α} (h : entries? read source = some es) {e : String × α} (he : e ∈ es) :
    ∃ s, read s = some e.2 := by
  obtain ⟨ms, -, h⟩ := Option.bind_eq_some_iff.mp h
  obtain ⟨built, hbuilt, h⟩ := Option.bind_eq_some_iff.mp h
  obtain rfl := Option.some.inj h
  obtain ⟨m, -, hm⟩ := exists_of_mem_mapM hbuilt (Entries.mem_of_mem_ofList he)
  obtain ⟨a, ha, rfl⟩ := Option.map_eq_some_iff.mp hm
  exact ⟨m.2, ha⟩

theorem exists_of_optionalField? {α : Type} {ms : List (String × Source)} {name : String}
    {read : Source → Option α} {a : α} (h : optionalField? ms name read = some (some a)) :
    ∃ m ∈ ms, m.2 ≠ .null ∧ read m.2 = some a := by
  unfold optionalField? field? at h
  split at h
  · next source hl =>
    unfold optional? at h
    split at h
    · exact absurd h (by simp)
    · next hnull =>
      obtain ⟨a', ha, h⟩ := Option.map_eq_some_iff.mp h
      obtain rfl := Option.some.inj h
      refine ⟨(name, source), Entries.mem_of_lookup? hl, ?_, ha⟩
      rintro rfl
      exact hnull rfl
  · exact absurd h (by simp)

/-- The members of a record are values of its mapping. -/
theorem exists_of_mem_openRecord? {names : List String} {es : List (Key × Source)}
    {ms : List (String × Source)} (h : openRecord? names (.mapping es) = some ms)
    {m : String × Source} (hm : m ∈ ms) : ∃ e ∈ es, e.2 = m.2 := by
  obtain ⟨ms', hms, h⟩ := Option.bind_eq_some_iff.mp h
  unfold unrepeated? at h
  split at h
  · exact absurd h (by simp)
  · obtain rfl := Option.some.inj h
    obtain ⟨e, he, heq⟩ := exists_of_mem_mapM hms hm
    obtain ⟨key, -, rfl⟩ := Option.map_eq_some_iff.mp heq
    exact ⟨e, he, rfl⟩

/-- The members that are left over have other names, none of them twice. -/
theorem of_others? {names : List String} {ms : List (String × Source)} {others : Entries Json}
    (h : others? names ms = some others) :
    (Entries.keys others).Nodup ∧ ∀ e ∈ others, e.1 ∉ names ∧ e.2.Distinct := by
  obtain ⟨es, hes, h⟩ := Option.bind_eq_some_iff.mp h
  obtain rfl := Option.some.inj h
  refine ⟨Entries.nodup_keys_ofList es, fun e he => ?_⟩
  obtain ⟨m, hm, heq⟩ := exists_of_mem_mapM hes (Entries.mem_of_mem_ofList he)
  obtain ⟨j, hj, rfl⟩ := Option.map_eq_some_iff.mp heq
  exact ⟨by simpa using (List.mem_filter.mp hm).2, distinct_of_json? _ _ hj⟩

/-! ## Records -/

theorem unrepeated?_eq_some {ms : List (String × Source)} (names : List String)
    (hn : (Entries.keys ms).Nodup) : unrepeated? names ms = some ms := by
  have hcount : ∀ n, (ms.filter fun m => m.1 == n).length ≤ 1 := by
    intro n
    have hle := List.nodup_iff_count_le_one.mp hn n
    rw [Entries.keys, List.count, List.countP_map, List.countP_eq_length_filter] at hle
    exact hle
  unfold unrepeated?
  rw [if_neg]
  intro hany
  obtain ⟨n, -, hlt⟩ := List.any_eq_true.mp hany
  have := hcount n
  have := of_decide_eq_true hlt
  omega

variable {ms : List (String × Json)}

theorem members?_ofJson (ms : List (String × Json)) :
    members? (ofJson (.object ms)) = some (Entries.mapValues ofJson ms) := by
  rw [ofJson, members?, ofMembers_eq_map, Entries.mapValues]
  induction ms with
  | nil => rfl
  | cons m ms ih =>
    rw [List.map_cons, List.mapM_cons, ih]
    rfl

theorem openRecord?_ofJson (names : List String) (hn : (Entries.keys ms).Nodup) :
    openRecord? names (ofJson (.object ms)) = some (Entries.mapValues ofJson ms) := by
  rw [openRecord?, members?_ofJson, Option.bind_some, unrepeated?_eq_some]
  rwa [Entries.keys_mapValues]

theorem record?_ofJson (names : List String) (hn : (Entries.keys ms).Nodup) :
    record? names (ofJson (.object ms)) = some (Entries.mapValues ofJson ms) := by
  have hfields : (ofMembers ms).mapM (fun e => (e.1.field? names).map fun name =>
      name.map (·, e.2)) = some ((Entries.mapValues ofJson ms).map some) := by
    rw [ofMembers_eq_map, Entries.mapValues]
    clear hn
    induction ms with
    | nil => rfl
    | cons m ms ih =>
      rw [List.map_cons, List.mapM_cons, ih]
      rfl
  rw [ofJson, record?, fields?, hfields]
  change unrepeated? names (((Entries.mapValues ofJson ms).map some).filterMap id) = _
  rw [List.filterMap_map, Function.id_comp, List.filterMap_some, unrepeated?_eq_some]
  rwa [Entries.keys_mapValues]

section

variable {α : Type} {read : Source → Option α} {write : α → Json} {name : String} {x : Option α}

/-- A field is read as it was written, if its value is. -/
theorem field?_ofJson {missing : α} {a : α}
    (hl : Entries.lookup? name ms = some (write a)) (h : read (ofJson (write a)) = some a) :
    field? (Entries.mapValues ofJson ms) name missing read = some a := by
  rw [field?, Entries.lookup?_mapValues, hl]
  exact h

/-- A field that was not written is read as the missing one. -/
theorem field?_of_lookup?_eq_none {missing : α} (hl : Entries.lookup? name ms = none) :
    field? (Entries.mapValues ofJson ms) name missing read = some missing := by
  rw [field?, Entries.lookup?_mapValues, hl]
  rfl

/-- An optional field is read as it was written, if its value is and is not null. -/
theorem optionalField?_ofJson (hl : Entries.lookup? name ms = x.map write)
    (h : ∀ a, x = some a → write a ≠ .null ∧ read (ofJson (write a)) = some a) :
    optionalField? (Entries.mapValues ofJson ms) name read = some x := by
  cases x with
  | none => exact field?_of_lookup?_eq_none hl
  | some a =>
    obtain ⟨hnull, hread⟩ := h a rfl
    have hnot : (ofJson (write a)).isNull = false := by
      cases hw : write a with
      | null => exact absurd hw hnull
      | _ => rfl
    rw [optionalField?, field?, Entries.lookup?_mapValues, hl]
    simp [optional?, hnot, hread]

/-- A mapping of names to parts is read as it was written, if the parts are. -/
theorem entries?_ofJson {es : Entries α} (hn : (Entries.keys es).Nodup)
    (h : ∀ e ∈ es, read (ofJson (write e.2)) = some e.2) :
    entries? read (ofJson (.object (Entries.mapValues write es))) = some es := by
  have hparts : (Entries.mapValues ofJson (Entries.mapValues write es)).mapM
      (fun e => (read e.2).map (e.1, ·)) = some es := by
    rw [Entries.mapValues, Entries.mapValues, List.map_map]
    refine mapM_map_eq_some fun e he => ?_
    dsimp only [Function.comp]
    rw [h e he]
    rfl
  rw [entries?, members?_ofJson]
  change ((Entries.mapValues ofJson (Entries.mapValues write es)).mapM
    (fun e => (read e.2).map (e.1, ·))).bind _ = _
  rw [hparts]
  exact congrArg some (Entries.ofList_eq_self hn)

theorem list?_ofJson {xs : List α} (h : ∀ a ∈ xs, read (ofJson (write a)) = some a) :
    list? read (ofJson (.array (xs.map write))) = some xs := by
  rw [ofJson, list?, ofItems_eq_map, List.map_map]
  exact mapM_map_eq_some h

end

/-- Members under other names are read as JSON values, those under the given names left out. -/
theorem others?_ofJson {names : List String} {others : Entries Json}
    (hms : ∀ m ∈ ms, m.1 ∈ names) (hothers : ∀ m ∈ others, m.1 ∉ names)
    (hn : (Entries.keys others).Nodup) (hdistinct : ∀ m ∈ others, m.2.Distinct) :
    others? names (Entries.mapValues ofJson (ms ++ others)) = some others := by
  have hfilter : ((Entries.mapValues ofJson (ms ++ others)).filter fun m => !names.contains m.1) =
      Entries.mapValues ofJson others := by
    rw [Entries.mapValues, List.map_append, List.filter_append]
    have hnone :
        (ms.map fun m => (m.1, ofJson m.2)).filter (fun m => !names.contains m.1) = [] := by
      rw [List.filter_eq_nil_iff]
      intro m hm
      obtain ⟨m', hm', rfl⟩ := List.mem_map.mp hm
      simpa using hms m' hm'
    have hall : (others.map fun m => (m.1, ofJson m.2)).filter (fun m => !names.contains m.1) =
        others.map fun m => (m.1, ofJson m.2) := by
      rw [List.filter_eq_self]
      intro m hm
      obtain ⟨m', hm', rfl⟩ := List.mem_map.mp hm
      simpa using hothers m' hm'
    rw [hnone, hall]
    rfl
  have hread : (Entries.mapValues ofJson others).mapM
      (fun m : String × Source => m.2.json?.map (m.1, ·)) = some others := by
    refine mapM_map_eq_some fun m hm => ?_
    dsimp only
    rw [json?_ofJson (hdistinct m hm)]
    rfl
  rw [others?, hfilter]
  change ((Entries.mapValues ofJson others).mapM
    (fun m : String × Source => m.2.json?.map (m.1, ·))).bind _ = _
  rw [hread]
  exact congrArg some (Entries.ofList_eq_self hn)

end Source
end ApiResolution
