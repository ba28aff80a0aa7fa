import ApiResolution.Proofs.Operation.Filing

/-!
The buckets of a resolution. They are filled by one run of filings over the declared operations, so
in each of them operations have different names, every operation is found under each of its tags, and
what was filed stays as it is (`filing_ofDocument`). How often an operation lies in a bucket is how
often its tags name that bucket (`count_place_ofDocument`): it is filed twice as soon as two of its
tags fall together.
-/

namespace ApiResolution

namespace Buckets

variable {α β : Type} {v : Conventions}

theorem namesOf_eq_bucketNames {x : DeclaredOperation} {o : Operation}
    (h : o.tags = x.declared.tags) : namesOf v o = x.bucketNames v := by
  rw [namesOf, h, DeclaredOperation.bucketNames]

theorem mem_filedIn_iff {name : String} {fs : List (String × Operation)} {o : Operation} :
    o ∈ filedIn name fs ↔ (name, o) ∈ fs := by
  rw [filedIn, List.mem_map]
  constructor
  · rintro ⟨⟨bucket, o'⟩, hfiled, rfl⟩
    obtain ⟨hmem, hbucket⟩ := List.mem_filter.mp hfiled
    rwa [← (of_decide_eq_true hbucket : bucket = name)]
  · intro hmem
    exact ⟨(name, o), List.mem_filter.mpr ⟨hmem, decide_eq_true rfl⟩, rfl⟩

theorem mem_filings_iff {os : List Operation} {name : String} {o : Operation} :
    (name, o) ∈ filings v os ↔ o ∈ os ∧ name ∈ namesOf v o := by
  rw [filings, List.mem_flatMap]
  constructor
  · rintro ⟨o', ho', hmem⟩
    obtain ⟨bucket, hbucket, heq⟩ := List.mem_map.mp hmem
    obtain ⟨rfl, rfl⟩ := Prod.mk.inj heq
    exact ⟨ho', hbucket⟩
  · rintro ⟨ho, hname⟩
    exact ⟨o, ho, List.mem_map_of_mem hname⟩

/-- What is filed in a bucket is found there. -/
theorem exists_copy_of_mem {fs : List (String × Operation)} {name : String} {o : Operation}
    (h : (name, o) ∈ fs) : ∃ x ∈ filed (fileAll fs []) name, x.CopyOf o :=
  (forall₂_filed_fileAll fs name).exists_of_mem_right (mem_filedIn_iff.mpr h)

/-- What is found in a bucket was filed there. -/
theorem exists_mem_of_copy {fs : List (String × Operation)} {e : String × List Operation}
    (he : e ∈ fileAll fs []) {x : Operation} (hx : x ∈ e.2) : ∃ o, (e.1, o) ∈ fs ∧ x.CopyOf o := by
  rw [← filed_of_mem (NamedApart.nil.fileAll fs).keys he] at hx
  obtain ⟨o, ho, hcopy⟩ := (forall₂_filed_fileAll fs e.1).exists_of_mem_left hx
  exact ⟨o, mem_filedIn_iff.mp ho, hcopy⟩

/-- What the buckets of a document hold. `os` are its operations before any of them is filed. -/
structure Holding (v : Conventions) (d : Document) (os : List Operation) (buckets : Buckets) :
    Prop where
  /-- The operations are those that the document declares. -/
  declared : List.Forall₂ (fun x o => o.place = x.place ∧ o.tags = x.declared.tags) d.operations os
  /-- The buckets are filled by one run of filings. -/
  run : buckets = fileAll (filings v os) []
  /-- No two operations in a bucket have the same name. -/
  distinct : ∀ e ∈ buckets, (ids e.2).Nodup
  /-- Every declared operation is in the bucket of each of its tags, or in the common one. -/
  present : ∀ x ∈ d.operations, ∀ name ∈ x.bucketNames v,
    ∃ e ∈ buckets, e.1 = name ∧ ∃ o ∈ e.2, o.place = x.place
  /-- A bucket holds copies of what was filed there, in order. -/
  copies : ∀ name, List.Forall₂ Operation.CopyOf (filed buckets name)
    (filedIn name (filings v os))
  /-- A filing leaves what its bucket holds as it is, and so does everything after it; the operation
  keeps its name if no operation in the bucket has it by then. -/
  kept : ∀ before name o after, filings v os = before ++ (name, o) :: after →
    ∃ id later,
      filed buckets name =
        filed (fileAll before []) name ++ { o with operationId := id } :: later ∧
      (o.operationId ∉ ids (filed (fileAll before []) name) → id = o.operationId)
  /-- Two operations of one place differ in their names at most, in whatever buckets they are. -/
  alike : d.DistinctPaths → ∀ e ∈ buckets, ∀ e' ∈ buckets, ∀ o ∈ e.2, ∀ o' ∈ e'.2,
    o.place = o'.place → o.CopyOf o'

theorem holding_fileAll {d : Document} {os : List Operation}
    (hos : List.Forall₂ (fun x o => o.place = x.place ∧ o.tags = x.declared.tags)
      d.operations os) : Holding v d os (fileAll (filings v os) []) where
  declared := hos
  run := rfl
  distinct e he := by
    have hapart := NamedApart.nil.fileAll (filings v os)
    rw [← filed_of_mem hapart.keys he]
    exact hapart.ids e.1
  present x hx name hname := by
    obtain ⟨o, ho, hplace, htags⟩ := hos.exists_of_mem_left hx
    have hfiled : (name, o) ∈ filings v os :=
      mem_filings_iff.mpr ⟨ho, (namesOf_eq_bucketNames htags).symm ▸ hname⟩
    obtain ⟨found, hfound, hcopy⟩ := exists_copy_of_mem hfiled
    exact ⟨_, mem_of_mem_filed hfound, rfl, found, hfound, hcopy.place.trans hplace⟩
  copies := forall₂_filed_fileAll (filings v os)
  kept before name o after hsplit := by
    obtain ⟨later, hlater⟩ := exists_filed_fileAll_append before after name o
    rw [hsplit]
    exact ⟨_, later, hlater, freeName_of_not_mem⟩
  alike hd e he e' he' x hx x' hx' hplace := by
    obtain ⟨o, ho, hcopy⟩ := exists_mem_of_copy he hx
    obtain ⟨o', ho', hcopy'⟩ := exists_mem_of_copy he' hx'
    have hplaces : (os.map Operation.place).Nodup := by
      rw [← hos.map_eq fun _ _ h => h.1.symm]
      exact Document.nodup_places_operations hd
    have heq : o = o' := by
      refine List.inj_on_of_nodup_map hplaces (mem_filings_iff.mp ho).1 (mem_filings_iff.mp ho').1 ?_
      rw [← hcopy.place, ← hcopy'.place, hplace]
    exact hcopy.copyOf (heq ▸ hcopy')

/-! ## How often an operation is filed -/

theorem count_map_filedIn [BEq β] [LawfulBEq β] (place : Operation → β) (name : String) (p : β)
    (fs : List (String × Operation)) :
    ((filedIn name fs).map place).count p = (fs.map fun f => (f.1, place f.2)).count (name, p) := by
  rw [filedIn, List.map_map, List.count_eq_countP, List.count_eq_countP, List.countP_map,
    List.countP_map, List.countP_filter]
  refine List.countP_congr fun f _ => ?_
  simp [Prod.ext_iff, and_comm]

/-- A value that one element alone contributes is found as often as that element contributes it. -/
theorem count_flatMap_of_nodup {ι κ : Type} [BEq α] [LawfulBEq α] [BEq κ] [LawfulBEq κ]
    {key : ι → κ} (f : ι → List α) {is : List ι} (hn : (is.map key).Nodup) {i : ι} (hi : i ∈ is)
    (a : α) :
    (is.flatMap fun j => (f j).map (·, key j)).count (a, key i) = (f i).count a := by
  have hkey : ∀ j, (a, key i) ∈ (f j).map (·, key j) → key j = key i := by
    intro j hmem
    obtain ⟨_, -, heq⟩ := List.mem_map.mp hmem
    exact congrArg Prod.snd heq
  induction is with
  | nil => simp at hi
  | cons j is ih =>
    rw [List.map_cons, List.nodup_cons] at hn
    rw [List.flatMap_cons, List.count_append]
    rcases List.mem_cons.mp hi with rfl | hi
    · have hfirst : ((f i).map (·, key i)).count (a, key i) = (f i).count a :=
        List.count_map_of_injective _ (·, key i) (Prod.mk_left_injective (key i)) a
      have hrest : (is.flatMap fun j => (f j).map (·, key j)).count (a, key i) = 0 := by
        refine List.count_eq_zero.mpr fun hmem => hn.1 ?_
        obtain ⟨j, hj, hpair⟩ := List.mem_flatMap.mp hmem
        exact hkey j hpair ▸ List.mem_map_of_mem hj
      rw [hfirst, hrest, Nat.add_zero]
    · have hfirst : ((f j).map (·, key j)).count (a, key i) = 0 := by
        refine List.count_eq_zero.mpr fun hmem => hn.1 ?_
        exact hkey j hmem ▸ List.mem_map_of_mem hi
      rw [hfirst, Nat.zero_add]
      exact ih hn.2 hi

theorem map_place_filings {d : Document} {os : List Operation}
    (hos : List.Forall₂ (fun x o => o.place = x.place ∧ o.tags = x.declared.tags)
      d.operations os) :
    (filings v os).map (fun f => (f.1, f.2.place)) =
      d.operations.flatMap fun x => (x.bucketNames v).map (·, x.place) := by
  have hparts : ∀ o : Operation, ((namesOf v o).map (·, o)).map (fun f => (f.1, f.2.place)) =
      (namesOf v o).map (·, o.place) := fun o => List.map_map
  rw [filings, List.map_flatMap]
  simp only [hparts]
  rw [List.flatMap_def, List.flatMap_def]
  refine congrArg List.flatten (hos.map_eq fun x o h => ?_).symm
  rw [namesOf_eq_bucketNames h.2, h.1]

/-- An operation lies in a bucket as often as its tags name the bucket. -/
theorem Holding.count_place {d : Document} {os : List Operation} {buckets : Buckets}
    (h : Holding v d os buckets) (hd : d.DistinctPaths) {x : DeclaredOperation}
    (hx : x ∈ d.operations) (name : String) :
    ((filed buckets name).map Operation.place).count x.place = (x.bucketNames v).count name := by
  rw [(h.copies name).map_eq fun _ _ => Operation.CopyOf.place, count_map_filedIn,
    map_place_filings h.declared]
  exact count_flatMap_of_nodup _ (Document.nodup_places_operations hd) hx name

theorem Holding.exists_declared {d : Document} {os : List Operation} {buckets : Buckets}
    (h : Holding v d os buckets) {e : String × List Operation} (he : e ∈ buckets) {o : Operation}
    (ho : o ∈ e.2) : ∃ x ∈ d.operations, x.place = o.place := by
  rw [h.run] at he
  obtain ⟨made, hmade, hcopy⟩ := exists_mem_of_copy he ho
  obtain ⟨x, hx, hplace, -⟩ := h.declared.exists_of_mem_right (mem_filings_iff.mp hmade).1
  exact ⟨x, hx, hplace.symm.trans hcopy.place.symm⟩

/-- The operations of each bucket have different places exactly when the tags of every operation
name different buckets. -/
theorem Holding.nodup_places_iff {d : Document} {os : List Operation} {buckets : Buckets}
    (h : Holding v d os buckets) (hd : d.DistinctPaths) :
    (∀ e ∈ buckets, (e.2.map Operation.place).Nodup) ↔
      ∀ x ∈ d.operations, (x.bucketNames v).Nodup := by
  have hkeys : (Entries.keys buckets).Nodup := by
    rw [h.run]
    exact (NamedApart.nil.fileAll _).keys
  constructor
  · intro hplaces x hx
    refine List.nodup_iff_count_le_one.mpr fun name => ?_
    rw [← h.count_place hd hx]
    by_cases hempty : filed buckets name = []
    · rw [hempty]
      exact Nat.zero_le 1
    · obtain ⟨o, ho⟩ := List.exists_mem_of_ne_nil _ hempty
      exact List.nodup_iff_count_le_one.mp (hplaces _ (mem_of_mem_filed ho)) x.place
  · intro hnames e he
    refine List.nodup_iff_count_le_one.mpr fun place => ?_
    by_cases hplace : place ∈ e.2.map Operation.place
    · obtain ⟨o, ho, rfl⟩ := List.mem_map.mp hplace
      obtain ⟨x, hx, hplace⟩ := h.exists_declared he ho
      rw [← hplace, ← filed_of_mem hkeys he, h.count_place hd hx]
      exact List.nodup_iff_count_le_one.mp (hnames x hx) e.1
    · rw [List.count_eq_zero.mpr hplace]
      exact Nat.zero_le 1

end Buckets

namespace Resolution

/-- The operations of a resolution are those that its document declares, each made once and then
filed in its buckets. -/
theorem exists_run_ofDocument {o : Options} {v : Conventions} {d : Document} {r : Resolution}
    (h : ofDocument o v d = .ok r) :
    ∃ os, (context o v d).document.operations.mapM
        (DeclaredOperation.built (context o v d) r.models) = .ok os ∧
      List.Forall₂ (fun x o => o.place = x.place ∧ o.tags = x.declared.tags) d.operations os ∧
      r.operations = Buckets.fileAll (Buckets.filings v os) [] := by
  have hrun := (of_ofDocument h).operations
  rw [Buckets.ofDocument, Buckets.value_addDeclared] at hrun
  cases hos : (context o v d).document.operations.mapM
      (DeclaredOperation.built (context o v d) r.models) with
  | error failure =>
    rw [hos] at hrun
    exact absurd hrun (by simp [Except.map])
  | ok os =>
    rw [hos] at hrun
    refine ⟨os, rfl, ?_, (Except.ok.inj hrun).symm⟩
    refine (forall₂_operations_context o v d).trans (List.mapM_eq_ok_iff.mp hos) ?_
    intro x x' made halike hbuilt
    obtain ⟨hplace, htags, -⟩ := DeclaredOperation.of_built hbuilt
    exact ⟨hplace.trans halike.place, htags.trans halike.tags⟩

/-- The buckets of a resolution hold copies of the operations that its document declares. -/
theorem filing_ofDocument {o : Options} {v : Conventions} {d : Document} {r : Resolution}
    (h : ofDocument o v d = .ok r) :
    ∃ os, (context o v d).document.operations.mapM
        (DeclaredOperation.built (context o v d) r.models) = .ok os ∧
      Buckets.Holding v d os r.operations := by
  obtain ⟨os, hbuilt, hdeclared, hrun⟩ := exists_run_ofDocument h
  refine ⟨os, hbuilt, ?_⟩
  rw [hrun]
  exact Buckets.holding_fileAll hdeclared

/-- Conventions that keep the names of operations as they are declared. -/
def plainNames : Conventions := { operationName := id }

/-- Three operations of one tag, the last of them with the name of the first one; the second one is
named as if it had a number. -/
def numberedLists : Document :=
  { paths := [
      ("/cats", { get := some { operationId := some "list", tags := ["pets"] } }),
      ("/dogs", { get := some { operationId := some "list_1", tags := ["pets"] } }),
      ("/pets", { get := some { operationId := some "list", tags := ["pets", "lists"] } })] }

theorem filing_numberedLists :
    ∃ r os, ofDocument {} plainNames numberedLists = .ok r ∧
      Buckets.Holding plainNames numberedLists os r.operations ∧
      r.operations.map (fun e => (e.1, Buckets.ids e.2)) =
        [("Pets", ["list", "list_1", "list_2"]), ("Lists", ["list"])] := by
  have hids : (ofDocument {} plainNames numberedLists).toOption.map
      (fun r => r.operations.map fun e => (e.1, Buckets.ids e.2)) =
        some [("Pets", ["list", "list_1", "list_2"]), ("Lists", ["list"])] := by decide +kernel
  obtain ⟨r, hr, hids⟩ := Option.map_eq_some_iff.mp hids
  obtain ⟨os, -, hholding⟩ := filing_ofDocument (ofDocument_eq_ok hr)
  exact ⟨r, os, ofDocument_eq_ok hr, hholding, hids⟩

/-- An operation lies in a bucket as often as its tags name the bucket, so no bucket has it twice
exactly when no two of its tags fall together. -/
theorem count_place_ofDocument {o : Options} {v : Conventions} {d : Document} {r : Resolution}
    (hd : d.DistinctPaths) (h : ofDocument o v d = .ok r) :
    (∀ x ∈ d.operations, ∀ name,
      ((Buckets.filed r.operations name).map Operation.place).count x.place =
        (x.bucketNames v).count name) ∧
    ((∀ e ∈ r.operations, (e.2.map Operation.place).Nodup) ↔
      ∀ x ∈ d.operations, (x.bucketNames v).Nodup) := by
  obtain ⟨os, -, hdeclared, hrun⟩ := exists_run_ofDocument h
  have hholding := Buckets.holding_fileAll (v := v) hdeclared
  rw [← hrun] at hholding
  exact ⟨fun x hx name => hholding.count_place hd hx name, hholding.nodup_places_iff hd⟩

/-- An operation that names one tag twice. -/
def taggedTwice : Document :=
  { paths := [("/pets", { get := some { operationId := some "list", tags := ["pets", "pets"] } })] }

theorem count_place_taggedTwice :
    ∃ r, ofDocument {} (.neutral false) taggedTwice = .ok r ∧
      ((Buckets.filed r.operations "Pets").map Operation.place).count ("/pets", .get) = 2 := by
  have hr : (ofDocument {} (.neutral false) taggedTwice).toOption.isSome = true := by decide +kernel
  obtain ⟨r, hr⟩ := Option.isSome_iff_exists.mp hr
  obtain ⟨hcount, -⟩ := count_place_ofDocument (by decide) (ofDocument_eq_ok hr)
  exact ⟨r, ofDocument_eq_ok hr, hcount _ List.mem_cons_self "Pets"⟩

/-- A tag that is named twice files the operation twice, the second time under another name. -/
theorem not_nodup_places_taggedTwice :
    ∃ r e, ofDocument {} (.neutral false) taggedTwice = .ok r ∧ e ∈ r.operations ∧
      ¬ (e.2.map Operation.place).Nodup := by
  have hplaces : (ofDocument {} (.neutral false) taggedTwice).toOption.map
      (fun r => r.operations.map fun e => e.2.map Operation.place) =
        some [[("/pets", .get), ("/pets", .get)]] := by decide +kernel
  obtain ⟨r, hr, hplaces⟩ := Option.map_eq_some_iff.mp hplaces
  obtain ⟨e, he, htwice⟩ := List.mem_map.mp (hplaces ▸ List.mem_singleton_self _)
  exact ⟨r, e, ofDocument_eq_ok hr, he, htwice ▸ by decide⟩

end Resolution
end ApiResolution
