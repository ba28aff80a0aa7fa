import ApiResolution.Proofs.Document.Renaming

/-!
Renaming loses no schema. `Renames` runs through the names with searches that have no bound, and
`renames_renamesFrom` says that each search ends and that the run gives the new names. Afterwards no
two names are the same in any case, each schema stands at its index, and it keeps its name exactly
when no schema before it has that name in some case (`names_withDistinctNames`). A document with
such names is left as it is (`withDistinctNames_eq_self`).
-/

namespace ApiResolution
namespace Document

/-! ## The searches end -/

/-- The search from a name on, without a bound: it ends at the first name that is taken in no
case. -/
inductive Finds (taken : List String) : String → String → Prop
  | here {s : String} (h : Text.toLower s ∉ taken) : Finds taken s s
  | next {s free : String} (h : Text.toLower s ∈ taken)
      (hnext : Finds taken (Identifier.nextName s) free) : Finds taken s free

/-- The new names under the old ones, found one after the other; `taken` and `kept` are as for
`renamesFrom`. -/
inductive Renames : List String → List String → List String → Entries String → Prop
  | done {taken kept : List String} : Renames taken kept [] []
  | keep {taken kept rest : List String} {name : String} {names : Entries String}
      (h : Text.toLower name ∉ kept)
      (hrest : Renames taken (Text.toLower name :: kept) rest names) :
      Renames taken kept (name :: rest) names
  | rename {taken kept rest : List String} {name free : String} {names : Entries String}
      (h : Text.toLower name ∈ kept) (hfree : Finds taken (Identifier.nextName name) free)
      (hrest : Renames (Text.toLower free :: taken) (Text.toLower free :: kept) rest names) :
      Renames taken kept (name :: rest) ((name, free) :: names)

theorem finds_of_freeFrom_not_mem {taken : List String} {bound : Nat} {s : String}
    (h : Text.toLower (Identifier.freeFrom (fun n => taken.contains (Text.toLower n)) bound s) ∉
      taken) :
    Finds taken s (Identifier.freeFrom (fun n => taken.contains (Text.toLower n)) bound s) := by
  induction bound generalizing s with
  | zero => exact .here h
  | succ bound ih =>
    rw [Identifier.freeFrom] at h ⊢
    split
    · next hs =>
      rw [if_pos hs] at h
      exact .next (List.contains_iff_mem.mp hs) (ih h)
    · next hs => exact .here fun hmem => hs (List.contains_iff_mem.mpr hmem)

/-- Every search ends, at the name that the bounded one finds. -/
theorem renames_renamesFrom (taken kept names : List String) :
    Renames taken kept names (renamesFrom taken kept names) := by
  induction names generalizing taken kept with
  | nil => exact .done
  | cons name rest ih =>
    rw [renamesFrom]
    dsimp only
    split
    · next hk =>
      exact .rename (List.contains_iff_mem.mp hk)
        (finds_of_freeFrom_not_mem (Identifier.freeFrom_not_mem _ _)) (ih _ _)
    · next hk => exact .keep (fun hmem => hk (List.contains_iff_mem.mpr hmem)) (ih _ _)

/-! ## Which names stay -/

/-- No name before the one at an index is the same in any case. -/
def FirstInAnyCase (names : List String) (i : Nat) (name : String) : Prop :=
  ∀ j < i, ∀ other, names[j]? = some other → Text.toLower other ≠ Text.toLower name

theorem firstInAnyCase_cons_succ {first name : String} {rest : List String} {i : Nat} :
    FirstInAnyCase (first :: rest) (i + 1) name ↔
      Text.toLower first ≠ Text.toLower name ∧ FirstInAnyCase rest i name := by
  unfold FirstInAnyCase
  rw [Nat.forall_lt_succ_left]
  simp

/-- A name stays exactly when it is not kept in any case, neither at the start nor at a name before
it. -/
theorem getElem?_newNamesFrom_eq_iff {taken kept names : List String}
    (hn : ∀ n ∈ names, Text.toLower n ∈ taken) {i : Nat} {name : String}
    (hi : names[i]? = some name) :
    (newNamesFrom taken kept names)[i]? = some name ↔
      Text.toLower name ∉ kept ∧ FirstInAnyCase names i name := by
  induction names generalizing taken kept i with
  | nil => simp at hi
  | cons first rest ih =>
    have hfirst : Text.toLower first ∈ taken := hn first List.mem_cons_self
    have hrest : ∀ n ∈ rest, Text.toLower n ∈ taken := fun n h => hn n (List.mem_cons_of_mem _ h)
    rw [newNamesFrom]
    dsimp only
    split
    · next hk =>
      have hk := List.contains_iff_mem.mp hk
      have hfree := Identifier.freeFrom_not_mem taken (Identifier.nextName first)
      generalize Identifier.freeFrom (fun n => taken.contains (Text.toLower n)) (taken.length + 1)
        (Identifier.nextName first) = free at hfree ⊢
      cases i with
      | zero =>
        obtain rfl : first = name := Option.some.inj hi
        have hne : free ≠ first := fun heq => hfree (heq ▸ hfirst)
        simp [hne, hk]
      | succ i =>
        have hname : Text.toLower name ∈ taken := hrest name (List.mem_of_getElem? hi)
        have hne : Text.toLower name ≠ Text.toLower free := fun heq => hfree (heq ▸ hname)
        rw [List.getElem?_cons_succ,
          ih (fun n h => List.mem_cons_of_mem _ (hrest n h)) hi, firstInAnyCase_cons_succ,
          List.mem_cons, not_or]
        constructor
        · rintro ⟨⟨-, hkept⟩, hlater⟩
          exact ⟨hkept, fun heq => hkept (heq ▸ hk), hlater⟩
        · rintro ⟨hkept, -, hlater⟩
          exact ⟨⟨hne, hkept⟩, hlater⟩
    · next hk =>
      have hk : Text.toLower first ∉ kept := fun h => hk (List.contains_iff_mem.mpr h)
      cases i with
      | zero =>
        obtain rfl : first = name := Option.some.inj hi
        simp [hk, FirstInAnyCase]
      | succ i =>
        rw [List.getElem?_cons_succ, ih hrest hi, firstInAnyCase_cons_succ, List.mem_cons, not_or]
        constructor
        · rintro ⟨⟨hne, hkept⟩, hlater⟩
          exact ⟨hkept, Ne.symm hne, hlater⟩
        · rintro ⟨hkept, hne, hlater⟩
          exact ⟨⟨Ne.symm hne, hkept⟩, hlater⟩

theorem keys_withDistinctNames_eq {d : Document} (hd : d.DistinctSchemas) :
    Entries.keys d.withDistinctNames.components.schemas =
      newNamesFrom ((Entries.keys d.components.schemas).map Text.toLower) []
        (Entries.keys d.components.schemas) :=
  (keys_withDistinctNames hd).trans (map_lookup?_renamesFrom hd)

theorem newName_eq_self_iff {d : Document} (hd : d.DistinctSchemas) {i : Nat} {name : String}
    (hi : (Entries.keys d.components.schemas)[i]? = some name) :
    d.newName name = name ↔ FirstInAnyCase (Entries.keys d.components.schemas) i name := by
  have hall : ∀ n ∈ Entries.keys d.components.schemas,
      Text.toLower n ∈ (Entries.keys d.components.schemas).map Text.toLower :=
    fun _ => List.mem_map_of_mem
  have h := @getElem?_newNamesFrom_eq_iff _ [] _ hall _ _ hi
  rw [← keys_withDistinctNames_eq hd, keys_withDistinctNames hd, List.getElem?_map, hi,
    Option.map_some, Option.some.injEq] at h
  simpa using h

/-! ## A second renaming -/

/-- Names that differ in more than case get no new names. -/
theorem renamesFrom_eq_nil {taken kept names : List String}
    (hn : (names.map Text.toLower).Nodup) (hk : ∀ n ∈ names, Text.toLower n ∉ kept) :
    renamesFrom taken kept names = [] := by
  induction names generalizing taken kept with
  | nil => rfl
  | cons name rest ih =>
    rw [List.map_cons, List.nodup_cons] at hn
    have hname : ¬ kept.contains (Text.toLower name) = true := fun h =>
      hk name List.mem_cons_self (List.contains_iff_mem.mp h)
    rw [renamesFrom]
    dsimp only
    rw [if_neg hname]
    refine ih hn.2 fun n h => ?_
    rw [List.mem_cons, not_or]
    refine ⟨fun heq => hn.1 (heq ▸ List.mem_map_of_mem h), hk n (List.mem_cons_of_mem _ h)⟩

/-! ## A document that stays as it is -/

theorem mapValues_id {α : Type} : Entries.mapValues (id : α → α) = id :=
  funext fun es => List.map_id es

theorem mapInline_id {α : Type} : mapInline (id : α → α) = id :=
  funext fun part => by cases part <;> rfl

theorem mapMedia_id : mapMedia id = id := by
  funext m
  simp [mapMedia]

theorem mapParameter_id : mapParameter id = id := by
  funext p
  simp [mapParameter, mapMedia_id, mapValues_id]

theorem mapBody_id : mapBody id = id := by
  funext b
  simp [mapBody, mapMedia_id, mapValues_id]

theorem mapHeader_id : mapHeader id = id := by
  funext h
  simp [mapHeader]

theorem mapResponse_id : mapResponse id = id := by
  funext r
  simp [mapResponse, mapHeader_id, mapInline_id, mapMedia_id, mapValues_id]

theorem mapOperation_id : mapOperation id = id := by
  funext o
  simp [mapOperation, mapParameter_id, mapBody_id, mapResponse_id, mapInline_id, mapValues_id]

theorem mapPath_id : mapPath id = id := by
  funext p
  simp [mapPath, mapOperation_id, mapParameter_id, mapInline_id]

theorem mapComponents_id : mapComponents id = id := by
  funext c
  simp [mapComponents, mapParameter_id, mapBody_id, mapResponse_id, mapHeader_id, mapInline_id,
    mapValues_id]

theorem mapSchemas_id (d : Document) : d.mapSchemas id = d := by
  simp [mapSchemas, mapPath_id, mapComponents_id, mapValues_id]

/-- Without new names a document stays as it is. -/
theorem renameWith_nil {d : Document} (hd : d.DistinctSchemas) : d.renameWith [] = d := by
  have htarget : renameTarget d.self [] = id := by
    funext target
    unfold renameTarget
    cases Reference.componentName? target d.self "schemas" <;> rfl
  have hrefs : Schema.mapRefs id = id := funext Schema.mapRefs_id
  have hnames : renameSchemas [] d.components.schemas = d.components.schemas := by
    unfold renameSchemas
    simp only [Entries.lookup?_nil, Option.getD_none, List.map_id']
    exact Entries.ofList_eq_self hd
  unfold renameWith
  dsimp only
  rw [htarget, hrefs, mapSchemas_id, hnames]

/-- A document with names that differ in more than case stays as it is. -/
theorem withDistinctNames_eq_self {d : Document}
    (hd : ((Entries.keys d.components.schemas).map Text.toLower).Nodup) :
    d.renames = [] ∧ d.withDistinctNames = d := by
  have hnames : d.renames = [] := renamesFrom_eq_nil hd (by simp)
  rw [withDistinctNames, hnames]
  exact ⟨rfl, renameWith_nil (List.Nodup.of_map _ hd)⟩

/-- Renaming the schemas of a document ends and loses none of them. No two names are the same in any
case afterwards, each schema stands at its index, where it keeps its name exactly when it is the
first one of that name in any case, and renaming once more changes nothing. -/
theorem names_withDistinctNames {d : Document} (hd : d.DistinctSchemas) :
    Renames ((Entries.keys d.components.schemas).map Text.toLower) []
        (Entries.keys d.components.schemas) d.renames ∧
      d.withDistinctNames.components.schemas.length = d.components.schemas.length ∧
      (∀ i name s, d.components.schemas[i]? = some (name, s) →
        ∃ new, d.withDistinctNames.components.schemas[i]? =
            some (new, s.mapRefs (renameTarget d.self d.renames)) ∧
          (new = name ↔ FirstInAnyCase (Entries.keys d.components.schemas) i name)) ∧
      ((Entries.keys d.withDistinctNames.components.schemas).map Text.toLower).Nodup ∧
      d.withDistinctNames.renames = [] ∧
      d.withDistinctNames.withDistinctNames = d.withDistinctNames := by
  have hnodup : ((Entries.keys d.withDistinctNames.components.schemas).map Text.toLower).Nodup := by
    rw [keys_withDistinctNames_eq hd]
    exact (nodup_newNamesFrom (List.nil_subset _) fun n hn => List.mem_map_of_mem hn).1
  have hagain := withDistinctNames_eq_self hnodup
  refine ⟨renames_renamesFrom _ _ _, ?_, ?_, hnodup, hagain.1, hagain.2⟩
  · rw [schemas_withDistinctNames hd, List.length_map]
  · intro i name s hi
    have hname : (Entries.keys d.components.schemas)[i]? = some name := by
      rw [Entries.keys, List.getElem?_map, hi]
      rfl
    refine ⟨d.newName name, ?_, newName_eq_self_iff hd hname⟩
    rw [schemas_withDistinctNames hd, List.getElem?_map, hi]
    rfl

/-- Three schemas. The second name is the first one in another case, and the next name after it is
that of the third schema. -/
def threePets : Document :=
  { components := { schemas := [
      ("Pet", .emptyObject), ("pet", .reference "#/components/schemas/Pet"),
      ("PET2", .emptyObject)] } }

theorem names_withDistinctNames_threePets :
    threePets.DistinctSchemas ∧
      Entries.keys threePets.withDistinctNames.components.schemas = ["Pet", "pet3", "PET2"] ∧
      ((Entries.keys threePets.withDistinctNames.components.schemas).map Text.toLower).Nodup ∧
      threePets.withDistinctNames.withDistinctNames = threePets.withDistinctNames := by
  have hd : threePets.DistinctSchemas := by decide
  obtain ⟨-, -, -, hnodup, -, hagain⟩ := names_withDistinctNames hd
  exact ⟨hd, by decide +kernel, hnodup, hagain⟩

end Document
end ApiResolution
