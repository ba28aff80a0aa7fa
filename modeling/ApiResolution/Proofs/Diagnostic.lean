import ApiResolution.Diagnostic

/-!
What was noted is reported. A log that reported a schema has a diagnostic of an unresolved reference
(`Log.Backed`), so a note of an undefined schema always leads to one, also when the schema was
reported before (`hasKind_addAll_of_undefinedSchema`). What is noted for an element of a list is
noted for the list.
-/

namespace ApiResolution

namespace Diagnostic

/-- The report of a reference that names no schema. -/
def unnamed (target : String) : Diagnostic :=
  ⟨.unresolvedReference, target, "Reference '" ++ target ++ "' names no schema; using object"⟩

/-- The report of a name without a schema. -/
def undefined (name target : String) : Diagnostic :=
  ⟨.unresolvedReference, target, "Schema '" ++ name ++ "' is not defined; keeping the name"⟩

end Diagnostic

namespace Log

/-- Schemas are reported by diagnostics: there is one as soon as any schema counts as reported. -/
def Backed (log : Log) : Prop :=
  log.reported ≠ [] → Diagnostic.hasKind .unresolvedReference log.entries = true

theorem hasKind_append_left {kind : DiagnosticKind} {ds : List Diagnostic}
    (h : Diagnostic.hasKind kind ds = true) (more : List Diagnostic) :
    Diagnostic.hasKind kind (ds ++ more) = true := by
  rw [Diagnostic.hasKind, List.any_append]
  exact Bool.or_eq_true_iff.mpr (.inl h)

theorem hasKind_add {kind : DiagnosticKind} {log : Log}
    (h : Diagnostic.hasKind kind log.entries = true) (note : Note) :
    Diagnostic.hasKind kind (log.add note).entries = true := by
  cases note with
  | diagnostic d => exact hasKind_append_left h [d]
  | undefinedSchema name target =>
    rw [add]
    split
    · exact h
    · exact hasKind_append_left h _

theorem hasKind_addAll {kind : DiagnosticKind} {log : Log}
    (h : Diagnostic.hasKind kind log.entries = true) (notes : List Note) :
    Diagnostic.hasKind kind (log.addAll notes).entries = true := by
  induction notes generalizing log with
  | nil => exact h
  | cons note notes ih => exact ih (hasKind_add h note)

/-- Noting an undefined schema leaves a diagnostic of an unresolved reference. -/
theorem Backed.hasKind_add_undefinedSchema {log : Log} (h : log.Backed) (name target : String) :
    Diagnostic.hasKind .unresolvedReference (log.add (.undefinedSchema name target)).entries =
      true := by
  rw [Log.add]
  split
  · next hc =>
    refine h fun hnone => ?_
    rw [hnone] at hc
    simp at hc
  · simp [Diagnostic.hasKind]

theorem Backed.add {log : Log} (h : log.Backed) (note : Note) : (log.add note).Backed := by
  cases note with
  | diagnostic d => exact fun hr => hasKind_append_left (h hr) [d]
  | undefinedSchema name target => exact fun _ => h.hasKind_add_undefinedSchema name target

theorem Backed.hasKind_addAll {log : Log} (h : log.Backed) {notes : List Note}
    {name target : String} (hn : .undefinedSchema name target ∈ notes) :
    Diagnostic.hasKind .unresolvedReference (log.addAll notes).entries = true := by
  induction notes generalizing log with
  | nil => simp at hn
  | cons note notes ih =>
    rcases List.mem_cons.mp hn with rfl | hn
    · exact Log.hasKind_addAll (h.hasKind_add_undefinedSchema name target) notes
    · exact ih (h.add note) hn

/-- An undefined schema that was noted leads to a diagnostic of an unresolved reference. -/
theorem hasKind_addAll_of_undefinedSchema {notes : List Note} {name target : String}
    (h : .undefinedSchema name target ∈ notes) :
    Diagnostic.hasKind .unresolvedReference (addAll {} notes).entries = true := by
  have hempty : Backed {} := fun hr => absurd rfl hr
  exact hempty.hasKind_addAll h

/-- Diagnostics are added at the end, in order. -/
theorem addAll_diagnostics (log : Log) (ds : List Diagnostic) :
    log.addAll (ds.map .diagnostic) = { log with entries := log.entries ++ ds } := by
  induction ds generalizing log with
  | nil => rw [List.map_nil, List.append_nil]; rfl
  | cons d ds ih =>
    rw [List.map_cons, addAll, List.foldl_cons]
    refine (ih (log.add (.diagnostic d))).trans ?_
    rw [add, List.append_assoc, List.singleton_append]

/-- A diagnostic that is reported was noted, or it is of a schema that was noted as undefined. -/
theorem noted_of_mem_addAll {log : Log} {notes : List Note} {e : Diagnostic}
    (h : e ∈ (log.addAll notes).entries) :
    e ∈ log.entries ∨ .diagnostic e ∈ notes ∨ ∃ name target, e = .undefined name target := by
  induction notes generalizing log with
  | nil => exact .inl h
  | cons note notes ih =>
    rcases ih h with hbefore | hnoted | hundefined
    · cases note with
      | diagnostic d =>
        rcases List.mem_append.mp hbefore with hbefore | hd
        · exact .inl hbefore
        · obtain rfl := List.mem_singleton.mp hd
          exact .inr (.inl List.mem_cons_self)
      | undefinedSchema name target =>
        rw [add] at hbefore
        split at hbefore
        · exact .inl hbefore
        · rcases List.mem_append.mp hbefore with hbefore | hd
          · exact .inl hbefore
          · exact .inr (.inr ⟨name, target, List.mem_singleton.mp hd⟩)
    · exact .inr (.inl (List.mem_cons_of_mem _ hnoted))
    · exact .inr (.inr hundefined)

theorem subset_add (log : Log) (note : Note) : log.entries ⊆ (log.add note).entries := by
  cases note with
  | diagnostic d => exact List.subset_append_left _ _
  | undefinedSchema name target =>
    rw [add]
    split
    · exact List.Subset.refl _
    · exact List.subset_append_left _ _

theorem subset_addAll (log : Log) (notes : List Note) :
    log.entries ⊆ (log.addAll notes).entries := by
  induction notes generalizing log with
  | nil => exact List.Subset.refl _
  | cons note notes ih => exact List.Subset.trans (subset_add log note) (ih _)

theorem mem_addAll_of_noted {log : Log} {notes : List Note} {e : Diagnostic}
    (h : .diagnostic e ∈ notes) : e ∈ (log.addAll notes).entries := by
  obtain ⟨before, after, rfl⟩ := List.append_of_mem h
  rw [addAll, List.foldl_append, List.foldl_cons]
  refine subset_addAll _ after ?_
  exact List.mem_append_right _ (List.mem_singleton_self e)

end Log

namespace Note

/-- The diagnostics of a kind among notes. -/
def ofKind (kind : DiagnosticKind) (notes : List Note) : List Diagnostic :=
  notes.filterMap fun
    | diagnostic d => if d.kind = kind then some d else none
    | undefinedSchema _ _ => none

theorem ofKind_append (kind : DiagnosticKind) (notes notes' : List Note) :
    ofKind kind (notes ++ notes') = ofKind kind notes ++ ofKind kind notes' :=
  List.filterMap_append

end Note

/-- Of every kind but unresolved references, a log gets exactly what is noted. -/
theorem Log.ofKind_addAll {kind : DiagnosticKind} (hkind : kind ≠ .unresolvedReference) (log : Log)
    (notes : List Note) : Diagnostic.ofKind kind (log.addAll notes).entries =
      Diagnostic.ofKind kind log.entries ++ Note.ofKind kind notes := by
  induction notes generalizing log with
  | nil => exact (List.append_nil _).symm
  | cons note notes ih =>
    have hadd : Diagnostic.ofKind kind (log.add note).entries =
        Diagnostic.ofKind kind log.entries ++ Note.ofKind kind [note] := by
      cases note with
      | diagnostic d =>
        by_cases hd : d.kind = kind
        · simp [add, Diagnostic.ofKind, Note.ofKind, hd]
        · simp [add, Diagnostic.ofKind, Note.ofKind, hd]
      | undefinedSchema name target =>
        rw [add]
        split
        · exact (List.append_nil _).symm
        · simp [Diagnostic.ofKind, Note.ofKind, hkind.symm]
    refine (ih (log.add note)).trans ?_
    rw [hadd, List.append_assoc, ← Note.ofKind_append, List.singleton_append]

/-- No schema was noted as undefined. -/
def Note.AllDefined (notes : List Note) : Prop :=
  ∀ name target, .undefinedSchema name target ∉ notes

theorem Note.allDefined_of_hasKind {notes : List Note}
    (h : Diagnostic.hasKind .unresolvedReference (Log.addAll {} notes).entries = false) :
    AllDefined notes := by
  intro name target hmem
  rw [Log.hasKind_addAll_of_undefinedSchema hmem] at h
  exact absurd h (by simp)

namespace Noted

variable {α β : Type}

/-- A list of computations notes what each of them does, in order. -/
theorem notes_mapList (f : α → Noted β) (as : List α) :
    (mapList f as).notes = as.flatMap fun a => (f a).notes := by
  induction as with
  | nil => rfl
  | cons a as ih =>
    simp only [mapList, notes_bind, notes_pure, List.append_nil, List.flatMap_cons, ih]

theorem notes_subset_mapList {f : α → Noted β} {a : α} {as : List α} (h : a ∈ as) :
    (f a).notes ⊆ (mapList f as).notes := by
  rw [notes_mapList]
  exact fun n hn => List.mem_flatMap.mpr ⟨a, h, hn⟩

/-- What a list of computations gives comes from one of them, and what that one noted is noted. -/
theorem exists_of_mem_filterMapList {f : α → Noted (Option β)} {as : List α} {b : β}
    (h : b ∈ (filterMapList f as).value) :
    ∃ a ∈ as, (f a).value = some b ∧ (f a).notes ⊆ (filterMapList f as).notes := by
  simp only [filterMapList, value_bind, value_pure, value_mapList] at h
  obtain ⟨o, ho, rfl⟩ := List.mem_filterMap.mp h
  obtain ⟨a, ha, hv⟩ := List.mem_map.mp ho
  refine ⟨a, ha, hv, ?_⟩
  simp only [filterMapList, notes_bind, notes_pure, List.append_nil]
  exact notes_subset_mapList ha

end Noted
end ApiResolution
