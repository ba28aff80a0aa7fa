import ApiResolution.Proofs.Document.Places
import ApiResolution.Proofs.Identifier.NextName
import ApiResolution.Proofs.Reference
import ApiResolution.Proofs.Resolution

/-!
What renaming schemas does to references. The new names differ in more than case from each other and
from all names before (`nodup_newNamesFrom`), so each schema stays at its index
(`keys_withDistinctNames`). `refersTo_distinctNames_iff` says which references still point to the
schema that they pointed to: all of those to schemas that keep their names, and of the others those
targets that were written as pointers into the schemas, unless the new name is changed by decoding.
-/

namespace ApiResolution
namespace Document

/-! ## The new names -/

/-- All names in order after renaming; `taken` and `kept` are as for `renamesFrom`. -/
def newNamesFrom (taken kept : List String) : List String → List String
  | [] => []
  | name :: rest =>
    let lower := Text.toLower name
    if kept.contains lower then
      let free := Identifier.freeFrom (fun n => taken.contains (Text.toLower n)) (taken.length + 1)
        (Identifier.nextName name)
      let added := Text.toLower free
      free :: newNamesFrom (added :: taken) (added :: kept) rest
    else name :: newNamesFrom taken (lower :: kept) rest

/-- The name of a schema after renaming. -/
def newName (d : Document) (name : String) : String := (Entries.lookup? name d.renames).getD name

theorem freeFrom_nextName_ne_empty (isTaken : String → Bool) (rest : Nat) (s : String) :
    Identifier.freeFrom isTaken rest (Identifier.nextName s) ≠ "" := by
  induction rest generalizing s with
  | zero =>
    intro h
    rw [Identifier.freeFrom] at h
    have hlt := Identifier.number_lt_nextName s
    rw [h] at hlt
    exact absurd hlt (Nat.not_lt_zero _)
  | succ rest ih =>
    rw [Identifier.freeFrom]
    split
    · exact ih _
    · intro h
      have hlt := Identifier.number_lt_nextName s
      rw [h] at hlt
      exact absurd hlt (Nat.not_lt_zero _)

theorem mem_of_mem_keys_renamesFrom {taken kept names : List String} {name : String}
    (h : name ∈ Entries.keys (renamesFrom taken kept names)) : name ∈ names := by
  induction names generalizing taken kept with
  | nil => simp [renamesFrom, Entries.keys] at h
  | cons first rest ih =>
    rw [renamesFrom] at h
    dsimp only at h
    split at h
    · rcases List.mem_cons.mp h with rfl | h
      · exact List.mem_cons_self
      · exact List.mem_cons_of_mem _ (ih h)
    · exact List.mem_cons_of_mem _ (ih h)

/-- A new name is taken in no case. -/
theorem of_mem_renamesFrom {taken kept names : List String} {name new : String}
    (h : (name, new) ∈ renamesFrom taken kept names) : Text.toLower new ∉ taken ∧ new ≠ "" := by
  induction names generalizing taken kept with
  | nil => simp [renamesFrom] at h
  | cons first rest ih =>
    rw [renamesFrom] at h
    dsimp only at h
    split at h
    · rcases List.mem_cons.mp h with heq | h
      · obtain ⟨rfl, rfl⟩ := Prod.mk.inj heq
        exact ⟨Identifier.freeFrom_not_mem _ _, freeFrom_nextName_ne_empty _ _ _⟩
      · exact ⟨fun hin => (ih h).1 (List.mem_cons_of_mem _ hin), (ih h).2⟩
    · exact ih h

/-- The names after renaming are found by looking up the new ones. -/
theorem map_lookup?_renamesFrom {taken kept names : List String} (hn : names.Nodup) :
    names.map (fun n => (Entries.lookup? n (renamesFrom taken kept names)).getD n) =
      newNamesFrom taken kept names := by
  induction names generalizing taken kept with
  | nil => rfl
  | cons name rest ih =>
    obtain ⟨hname, hrest⟩ := List.nodup_cons.mp hn
    rw [renamesFrom, newNamesFrom]
    dsimp only
    split
    · have htail : ∀ es : Entries String, ∀ new : String,
          rest.map (fun n => (Entries.lookup? n ((name, new) :: es)).getD n) =
            rest.map fun n => (Entries.lookup? n es).getD n := by
        intro es new
        refine List.map_congr_left fun n hmem => ?_
        rw [Entries.lookup?_cons, if_neg fun heq => hname (by rw [heq]; exact hmem)]
      rw [List.map_cons, htail, ih hrest]
      simp [Entries.lookup?_cons]
    · have hnone : Entries.lookup? name
          (renamesFrom taken (Text.toLower name :: kept) rest) = none :=
        Entries.lookup?_eq_none_iff.mpr fun h => hname (mem_of_mem_keys_renamesFrom h)
      rw [List.map_cons, ih hrest, hnone]
      rfl

/-- The names after renaming differ in more than case, from each other and from those kept. -/
theorem nodup_newNamesFrom {taken kept names : List String} (hk : kept ⊆ taken)
    (hn : ∀ n ∈ names, Text.toLower n ∈ taken) :
    ((newNamesFrom taken kept names).map Text.toLower).Nodup ∧
      ∀ l ∈ (newNamesFrom taken kept names).map Text.toLower, l ∉ kept := by
  induction names generalizing taken kept with
  | nil => simp [newNamesFrom]
  | cons name rest ih =>
    have hrest : ∀ n ∈ rest, Text.toLower n ∈ taken := fun n h => hn n (List.mem_cons_of_mem _ h)
    rw [newNamesFrom]
    dsimp only
    split
    · have hfree := Identifier.freeFrom_not_mem taken (Identifier.nextName name)
      generalize Identifier.freeFrom (fun n => taken.contains (Text.toLower n)) (taken.length + 1)
        (Identifier.nextName name) = free at hfree ⊢
      obtain ⟨hnodup, hkept⟩ := ih (List.cons_subset_cons (Text.toLower free) hk)
        fun n h => List.mem_cons_of_mem _ (hrest n h)
      rw [List.map_cons, List.nodup_cons]
      refine ⟨⟨fun h => hkept _ h List.mem_cons_self, hnodup⟩, ?_⟩
      intro l hl
      rcases List.mem_cons.mp hl with rfl | hl
      · exact fun h => hfree (hk h)
      · exact fun h => hkept l hl (List.mem_cons_of_mem _ h)
    · next hcontains =>
      have hname : Text.toLower name ∉ kept := fun h =>
        hcontains (List.contains_iff_mem.mpr h)
      obtain ⟨hnodup, hkept⟩ := ih (List.cons_subset.mpr ⟨hn name List.mem_cons_self, hk⟩) hrest
      rw [List.map_cons, List.nodup_cons]
      refine ⟨⟨fun h => hkept _ h List.mem_cons_self, hnodup⟩, ?_⟩
      intro l hl
      rcases List.mem_cons.mp hl with rfl | hl
      · exact hname
      · exact fun h => hkept l hl (List.mem_cons_of_mem _ h)

theorem newName_ne_of_lookup? {d : Document} {name new : String}
    (hname : name ∈ Entries.keys d.components.schemas)
    (h : Entries.lookup? name d.renames = some new) : new ≠ name ∧ new ≠ "" := by
  obtain ⟨hfree, hne⟩ := of_mem_renamesFrom (Entries.mem_of_lookup? h)
  exact ⟨fun heq => hfree (heq ▸ List.mem_map_of_mem hname), hne⟩

theorem nodup_map_newName {d : Document} (hd : d.DistinctSchemas) :
    ((Entries.keys d.components.schemas).map d.newName).Nodup := by
  have h : (Entries.keys d.components.schemas).map d.newName = newNamesFrom _ _ _ :=
    map_lookup?_renamesFrom hd
  rw [h]
  exact List.Nodup.of_map _
    (nodup_newNamesFrom (List.nil_subset _) fun n hn => List.mem_map_of_mem hn).1

/-! ## The schemas under their new names -/

/-- The schemas keep their places; their names and the targets in them change. -/
theorem schemas_withDistinctNames {d : Document} (hd : d.DistinctSchemas) :
    d.withDistinctNames.components.schemas = d.components.schemas.map fun e =>
      (d.newName e.1, e.2.mapRefs (renameTarget d.self d.renames)) := by
  have hschemas : d.withDistinctNames.components.schemas = Entries.ofList
      ((Entries.mapValues (Schema.mapRefs (renameTarget d.self d.renames)) d.components.schemas).map
        fun e => (d.newName e.1, e.2)) := rfl
  have hmap : (Entries.mapValues (Schema.mapRefs (renameTarget d.self d.renames))
      d.components.schemas).map (fun e => (d.newName e.1, e.2)) =
        d.components.schemas.map fun e =>
          (d.newName e.1, e.2.mapRefs (renameTarget d.self d.renames)) := by
    rw [Entries.mapValues, List.map_map]
    rfl
  have hkeys : Entries.keys (d.components.schemas.map fun e =>
      (d.newName e.1, e.2.mapRefs (renameTarget d.self d.renames))) =
        (Entries.keys d.components.schemas).map d.newName := by
    rw [Entries.keys, Entries.keys, List.map_map, List.map_map]
    rfl
  rw [hschemas, hmap]
  refine Entries.ofList_eq_self ?_
  rw [hkeys]
  exact nodup_map_newName hd

theorem keys_withDistinctNames {d : Document} (hd : d.DistinctSchemas) :
    Entries.keys d.withDistinctNames.components.schemas =
      (Entries.keys d.components.schemas).map d.newName := by
  rw [schemas_withDistinctNames hd, Entries.keys, Entries.keys, List.map_map, List.map_map]
  rfl

/-- Renaming changes the schema at every place by its targets only. -/
theorem schemaAt?_withDistinctNames {d : Document} (hd : d.DistinctSchemas) (place : SchemaPlace) :
    d.withDistinctNames.schemaAt? place =
      (d.schemaAt? place).map (Schema.mapRefs (renameTarget d.self d.renames)) := by
  rw [← schemaAt?_mapSchemas]
  rcases place with ⟨root, steps⟩
  rw [schemaAt?, schemaAt?]
  congr 1
  cases root with
  | schema i =>
    rw [rootSchema?, rootSchema?, schemas_withDistinctNames hd, mapSchemas, mapComponents,
      getElem?_mapValues, List.getElem?_map, Option.map_map, Option.map_map]
    rfl
  | _ => rfl

/-! ## References -/

/-- The reader of references takes a text for the schema at an index. -/
def RefersTo (d : Document) (text : String) (i : Nat) : Prop :=
  (Entries.keys d.components.schemas)[i]? = some (Reference.displayName text d.self)

instance (d : Document) (text : String) (i : Nat) : Decidable (d.RefersTo text i) :=
  inferInstanceAs (Decidable (_ = _))

theorem displayName_of_componentName? {target sectionName name : String} {self : Option String}
    (h : Reference.componentName? target self sectionName = some name) :
    Reference.displayName target self = name := by
  unfold Reference.componentName? at h
  unfold Reference.displayName
  cases hc : Reference.component? target self with
  | none => simp [hc] at h
  | some found =>
    rw [hc] at h
    dsimp only at h ⊢
    split at h
    · exact Option.some.inj h
    · exact absurd h (by simp)

theorem renameTarget_eq {self : Option String} {names : Entries String} {target : String} :
    renameTarget self names target =
      if (Reference.componentName? target self "schemas").isSome then
        ((Entries.lookup? (Reference.displayName target self) names).map
          Reference.ofSchemaName).getD target
      else target := by
  unfold renameTarget
  cases hc : Reference.componentName? target self "schemas" with
  | none => rfl
  | some name =>
    rw [displayName_of_componentName? hc, Option.bind_some]
    cases Entries.lookup? name names <;> rfl

end Document

namespace Resolution

open Document

/-- Renaming schemas and references. A text that names the schema at an index still does so, at its
place in the renamed document, exactly when that schema keeps its name, or the text is the target of
a reference, written as a pointer into the schemas, and the new name has no percent sign before two
hexadecimal digits. -/
theorem refersTo_distinctNames_iff {o : Options} (ho : o.checkDuplicatedModelName = true)
    {d : Document} (hd : d.DistinctSchemas) {place : SchemaPlace} {s : Schema}
    (hs : d.schemaAt? place = some s) {slot : Schema.Slot} {text : String}
    (ht : s.textAt? slot = some text) {i : Nat} (hi : d.RefersTo text i) :
    ∃ s' text', (distinctNames o d).value.schemaAt? place = some s' ∧
      s'.textAt? slot = some text' ∧
      ((distinctNames o d).value.RefersTo text' i ↔
        ∀ new, Entries.lookup? (Reference.displayName text d.self) d.renames = some new →
          slot = .target ∧ (Reference.componentName? text d.self "schemas").isSome ∧
            Text.hasPercentByte new.toList = false) := by
  rw [value_distinctNames, if_pos ho]
  have hname : Reference.displayName text d.self ∈ Entries.keys d.components.schemas :=
    List.mem_of_getElem? hi
  have hrefers : ∀ t, d.withDistinctNames.RefersTo t i ↔
      d.newName (Reference.displayName text d.self) = Reference.displayName t d.self := by
    intro t
    rw [RefersTo, keys_withDistinctNames hd, List.getElem?_map, hi, Option.map_some,
      Option.some.injEq]
    rfl
  refine ⟨s.mapRefs (renameTarget d.self d.renames), ?_⟩
  have hs' : d.withDistinctNames.schemaAt? place =
      some (s.mapRefs (renameTarget d.self d.renames)) := by
    rw [schemaAt?_withDistinctNames hd, hs, Option.map_some]
  -- A text that stays as it is goes on naming the schema exactly when the schema keeps its name.
  have hstays : d.withDistinctNames.RefersTo text i ↔
      Entries.lookup? (Reference.displayName text d.self) d.renames = none := by
    rw [hrefers, newName]
    cases hl : Entries.lookup? (Reference.displayName text d.self) d.renames with
    | none => simp
    | some new =>
      have hne := (newName_ne_of_lookup? hname hl).1
      simp [hne]
  cases slot with
  | mapping j =>
    refine ⟨text, hs', ?_, ?_⟩
    · rw [Schema.textAt?_mapRefs]
      exact ht
    · rw [hstays, Option.eq_none_iff_forall_not_mem]
      exact ⟨fun h new hnew => absurd hnew (h new), fun h new hnew => by simpa using (h new hnew).1⟩
  | target =>
    refine ⟨renameTarget d.self d.renames text, hs', ?_, ?_⟩
    · rw [Schema.textAt?_mapRefs]
      dsimp only
      rw [ht, Option.map_some]
    · rw [renameTarget_eq]
      cases hl : Entries.lookup? (Reference.displayName text d.self) d.renames with
      | none =>
        have hkeep : (if (Reference.componentName? text d.self "schemas").isSome then
            ((none : Option String).map Reference.ofSchemaName).getD text else text) = text := by
          split <;> rfl
        rw [hkeep, hstays, hl]
        simp
      | some new =>
        have hne := newName_ne_of_lookup? hname hl
        by_cases hc : (Reference.componentName? text d.self "schemas").isSome = true
        · rw [if_pos hc, Option.map_some, Option.getD_some, hrefers, newName, hl,
            Option.getD_some, eq_comm, Reference.displayName_ofSchemaName_eq_iff hne.2]
          simp [hc]
        · rw [if_neg hc, hstays, hl]
          simp [hc]

/-- Two schemas whose names differ by case. The first refers to the second one twice: by a pointer
and by its bare name. -/
def twoOrders : Document :=
  { components := { schemas := [
      ("Order", .ofShape (.object
        [("pointer", .reference "#/components/schemas/order"), ("bare", .reference "order")] [])),
      ("order", .emptyObject)] } }

theorem refersTo_distinctNames_pointer :
    ∃ s' text',
      (distinctNames { checkDuplicatedModelName := true } twoOrders).value.schemaAt?
        ⟨.schema 0, [.property 0]⟩ = some s' ∧
      s'.textAt? .target = some text' ∧
      ((distinctNames { checkDuplicatedModelName := true } twoOrders).value.RefersTo text' 1 ↔
        ∀ new, Entries.lookup? (Reference.displayName "#/components/schemas/order" twoOrders.self)
            twoOrders.renames = some new →
          Schema.Slot.target = .target ∧
            (Reference.componentName? "#/components/schemas/order" twoOrders.self
              "schemas").isSome ∧
            Text.hasPercentByte new.toList = false) :=
  refersTo_distinctNames_iff rfl (by decide)
    (s := .reference "#/components/schemas/order") rfl rfl (by decide +kernel)

/-- The bare name of the second schema resolves before the renaming; afterwards it is still the old
name, which no schema has. -/
theorem not_refersTo_distinctNames_bare :
    ((twoOrders.schemaAt? ⟨.schema 0, [.property 1]⟩).bind (·.textAt? .target) = some "order" ∧
        twoOrders.RefersTo "order" 1) ∧
      ((distinctNames { checkDuplicatedModelName := true } twoOrders).value.schemaAt?
        ⟨.schema 0, [.property 1]⟩).bind (·.textAt? .target) = some "order" ∧
      ¬ (distinctNames { checkDuplicatedModelName := true } twoOrders).value.RefersTo
        "order" 1 := by
  decide +kernel

end Resolution
end ApiResolution
