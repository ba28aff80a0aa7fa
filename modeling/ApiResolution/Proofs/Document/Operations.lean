import ApiResolution.Proofs.Document.Places
import ApiResolution.Proofs.Resolution
import Mathlib.Data.List.Nodup

/-!
The operations that a document declares. Each stands at a path and a method, its place, and a
document whose paths are distinct declares at most one operation at a place
(`nodup_places_operations`). Resolution may give the schemas of a document other names; the
declared operations keep their order, their places, tags and names (`forall₂_operations_context`).
-/

namespace ApiResolution

/-- Where an operation is declared: its path and its method. -/
def DeclaredOperation.place (d : DeclaredOperation) : String × HttpMethod := (d.path, d.method)

/-- Where an operation comes from: its path and its method. -/
def Operation.place (o : Operation) : String × HttpMethod := (o.path, o.method)

/-- Whether two declarations differ in their schemas only: they have the same place, the same tags
and the same name. -/
structure DeclaredOperation.Alike (d d' : DeclaredOperation) : Prop where
  place : d'.place = d.place
  tags : d'.declared.tags = d.declared.tags
  operationId : d'.declared.operationId = d.declared.operationId

namespace Document

/-! ## Places -/

/-- No two path items have the same path. -/
def DistinctPaths (d : Document) : Prop := (Entries.keys d.paths).Nodup

instance (d : Document) : Decidable d.DistinctPaths :=
  inferInstanceAs (Decidable (Entries.keys d.paths).Nodup)

theorem keys_of_mapM_item {values : Entries Json} {paths : Entries PathItem}
    (h : (values.mapM fun (k, v) => (PathItem.read? (.ofJson v)).map (k, ·)) = some paths) :
    Entries.keys paths = Entries.keys values := by
  induction values generalizing paths with
  | nil =>
    obtain rfl := Option.some.inj h
    rfl
  | cons e values ih =>
    rw [List.mapM_cons] at h
    obtain ⟨item, hitem, h⟩ := Option.bind_eq_some_iff.mp h
    obtain ⟨items, hitems, h⟩ := Option.bind_eq_some_iff.mp h
    obtain rfl := Option.some.inj h
    obtain ⟨p, -, rfl⟩ := Option.map_eq_some_iff.mp hitem
    rw [Entries.keys_cons, Entries.keys_cons, ih hitems]

theorem nodup_keys_readPaths? {source : Source} {paths : Entries PathItem}
    (h : readPaths? source = some paths) : (Entries.keys paths).Nodup := by
  unfold readPaths? at h
  obtain ⟨values, hvalues, h⟩ := Option.bind_eq_some_iff.mp h
  rw [keys_of_mapM_item h]
  exact (Source.nodup_keys_entries? hvalues).sublist (List.filter_sublist.map Prod.fst)

/-- A document that was read has no path twice. -/
theorem distinctPaths_read? {source : Source} {d : Document} (h : read? source = some d) :
    d.DistinctPaths := by
  unfold read? at h
  obtain ⟨_, -, h⟩ := Option.bind_eq_some_iff.mp h
  obtain ⟨_, -, h⟩ := Option.bind_eq_some_iff.mp h
  obtain ⟨_, -, h⟩ := Option.bind_eq_some_iff.mp h
  obtain ⟨paths, hp, h⟩ := Option.bind_eq_some_iff.mp h
  obtain ⟨_, -, h⟩ := Option.bind_eq_some_iff.mp h
  obtain ⟨_, -, h⟩ := Option.bind_eq_some_iff.mp h
  obtain rfl := Option.some.inj h
  rcases Source.field?_eq_some hp with rfl | ⟨source, hp⟩
  · exact List.nodup_nil
  · exact nodup_keys_readPaths? hp

/-- The operations below one path. -/
def operationsAt (e : String × PathItem) : List DeclaredOperation :=
  HttpMethod.all.filterMap fun method =>
    (e.2.operation? method).map fun declared => ⟨e.1, method, e.2.parameters, declared⟩

theorem path_of_mem_operationsAt {e : String × PathItem} {x : DeclaredOperation}
    (h : x ∈ operationsAt e) : x.path = e.1 := by
  obtain ⟨method, -, hx⟩ := List.mem_filterMap.mp h
  obtain ⟨declared, -, rfl⟩ := Option.map_eq_some_iff.mp hx
  rfl

theorem nodup_places_operationsAt (e : String × PathItem) :
    ((operationsAt e).map DeclaredOperation.place).Nodup := by
  have hall : HttpMethod.all.Nodup := by decide
  rw [operationsAt, List.map_filterMap]
  refine hall.filterMap fun method method' place h h' => ?_
  rw [Option.map_map] at h h'
  obtain ⟨declared, -, rfl⟩ := Option.map_eq_some_iff.mp h
  obtain ⟨declared', -, heq⟩ := Option.map_eq_some_iff.mp h'
  exact (congrArg Prod.snd heq).symm

/-- A document whose paths are distinct declares at most one operation at a place. -/
theorem nodup_places_operations {d : Document} (hd : d.DistinctPaths) :
    (d.operations.map DeclaredOperation.place).Nodup := by
  have hflat : d.operations.map DeclaredOperation.place =
      d.paths.flatMap fun e => (operationsAt e).map DeclaredOperation.place := List.map_flatMap
  rw [hflat, List.nodup_flatMap]
  refine ⟨fun e _ => nodup_places_operationsAt e, ?_⟩
  refine (List.pairwise_map.mp hd).imp ?_
  intro e e' hne place hplace hplace'
  obtain ⟨x, hx, rfl⟩ := List.mem_map.mp hplace
  obtain ⟨x', hx', heq⟩ := List.mem_map.mp hplace'
  refine hne ?_
  rw [← path_of_mem_operationsAt hx, ← path_of_mem_operationsAt hx']
  exact (congrArg Prod.fst heq).symm

/-! ## Other names of schemas -/

/-- The declaration with its schemas changed. -/
def mapDeclared (f : Schema → Schema) (d : DeclaredOperation) : DeclaredOperation :=
  { d with
    pathParameters := d.pathParameters.map (mapInline (mapParameter f))
    declared := mapOperation f d.declared }

theorem operations_mapSchemas (f : Schema → Schema) (d : Document) :
    (d.mapSchemas f).operations = d.operations.map (mapDeclared f) := by
  have hpath : ∀ e : String × PathItem,
      operationsAt (e.1, mapPath f e.2) = (operationsAt e).map (mapDeclared f) := by
    intro e
    rw [operationsAt, operationsAt, List.map_filterMap]
    congr 1
    funext method
    rw [operation?_mapPath, Option.map_map, Option.map_map]
    rfl
  have hpaths : (d.mapSchemas f).operations =
      d.paths.flatMap fun e => operationsAt (e.1, mapPath f e.2) := List.flatMap_map ..
  rw [hpaths, show d.operations = d.paths.flatMap operationsAt from rfl, List.map_flatMap]
  simp only [hpath]

theorem operations_withDistinctNames (d : Document) :
    d.withDistinctNames.operations =
      d.operations.map (mapDeclared (Schema.mapRefs (renameTarget d.self d.renames))) :=
  operations_mapSchemas _ d

end Document

namespace Resolution

/-- The operations of the document that is resolved are those of the document, with other names in
their schemas at most. -/
theorem forall₂_operations_context (o : Options) (v : Conventions) (d : Document) :
    List.Forall₂ DeclaredOperation.Alike d.operations (context o v d).document.operations := by
  rw [context, value_distinctNames]
  split
  · rw [Document.operations_withDistinctNames, List.forall₂_map_right_iff]
    exact List.forall₂_same.mpr fun x _ => ⟨rfl, rfl, rfl⟩
  · exact List.forall₂_same.mpr fun x _ => ⟨rfl, rfl, rfl⟩

end Resolution
end ApiResolution
