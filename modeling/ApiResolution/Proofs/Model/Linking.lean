import ApiResolution.Proofs.Diagnostic
import ApiResolution.Proofs.Model.Hierarchy
import Mathlib.Data.List.Flatten

/-!
What linking does to a map of models, whatever its parent links are. No ancestor is met twice
(`nodup_ancestors`) and only the last one may have a discriminator (`unmarked_ancestors`), so the
children of a model stand in the order of the map and each of them once
(`sublist_registered`), and a model notes one conflict at most (`filterMap_ancestors`).
`linked_link` says all that linking does, and that it does nothing else.
-/

namespace ApiResolution
namespace ModelMap

/-- Parent links lead from a model to an ancestor over models without a discriminator, before any
name is met again. -/
def Reaches (models : ModelMap) (name top : String) : Prop :=
  ∃ between, Lineage models name between top ∧ ∀ b ∈ between, discriminatorOf? models b = none

/-- A model and the first ancestor with a discriminator are told apart by different properties. -/
structure Conflicting (models : ModelMap) (name top : String) (mine theirs : Discriminator) :
    Prop where
  reaches : Reaches models name top
  own : discriminatorOf? models name = some mine
  ancestor : discriminatorOf? models top = some theirs
  different : mine.propertyName ≠ theirs.propertyName

/-- What is reported of a model and an ancestor that are told apart by different properties. -/
def conflict (name top : String) (mine theirs : Discriminator) : Diagnostic where
  kind := .discriminatorConflict
  location := name
  message := "Discriminator '" ++ mine.propertyName ++ "' differs from '" ++
    theirs.propertyName ++ "' declared by ancestor '" ++ top ++ "'"

/-- What linking makes of a model: its links are marked, its children are those that reach it, in
the order of the map, and all else stays. -/
structure Linked (models : ModelMap) (m linked : Model) : Prop where
  marked : linked = { m with
    parentModel := m.parent.filter (· ∈ Entries.keys models)
    interfaceModels := m.interfaces.filter (· ∈ Entries.keys models)
    children := linked.children }
  ordered : linked.children.Sublist (Entries.keys models)
  nodup : linked.children.Nodup
  children : ∀ child, child ∈ linked.children ↔ child ≠ m.name ∧ Reaches models child m.name

theorem Reaches.ne {models : ModelMap} {name top : String} (h : Reaches models name top) :
    name ≠ top := by
  obtain ⟨between, hl, -⟩ := h
  have hfirst := (List.nodup_cons.mp hl.nodup).1
  exact fun heq => hfirst (heq ▸ List.mem_append_right _ List.mem_cons_self)

/-! ## Ancestors -/

theorem nodup_ancestorsFrom {models : ModelMap}
    (hname : ∀ name m, Entries.lookup? name models = some m → m.name = name) (rest : Nat)
    (visited : List String) (parent : Option String) :
    ((ancestorsFrom models rest visited parent).map (·.name)).Nodup ∧
      ∀ a ∈ ancestorsFrom models rest visited parent, a.name ∉ visited := by
  fun_induction ancestorsFrom models rest visited parent with
  | case1 => simp
  | case2 => simp
  | case3 => simp
  | case4 => simp
  | case5 rest visited name m hm hseen =>
    obtain rfl := hname name m hm
    simpa using hseen
  | case6 rest visited name m hm hseen hmarked ih =>
    obtain rfl := hname name m hm
    obtain ⟨hnodup, hfresh⟩ := ih
    rw [List.map_cons, List.nodup_cons, List.forall_mem_cons]
    refine ⟨⟨fun hmem => ?_, hnodup⟩, by simpa using hseen, fun a ha hin => ?_⟩
    · obtain ⟨a, ha, heq⟩ := List.mem_map.mp hmem
      exact hfresh a ha (heq ▸ List.mem_cons_self)
    · exact hfresh a ha (List.mem_cons_of_mem _ hin)

/-- A model meets no ancestor twice. -/
theorem nodup_ancestors {models : ModelMap}
    (hname : ∀ name m, Entries.lookup? name models = some m → m.name = name) (name : String)
    (m : Model) : ((ancestors models name m).map (·.name)).Nodup :=
  (nodup_ancestorsFrom hname _ _ _).1

/-- An ancestor that is followed by another one has no discriminator. -/
theorem unmarked_ancestorsFrom (models : ModelMap) (rest : Nat) (visited : List String)
    (parent : Option String) :
    (ancestorsFrom models rest visited parent).Pairwise fun a _ => a.discriminator = none := by
  fun_induction ancestorsFrom models rest visited parent with
  | case1 => exact .nil
  | case2 => exact .nil
  | case3 => exact .nil
  | case4 => exact .nil
  | case5 => exact List.pairwise_singleton _ _
  | case6 rest visited name m hm hseen hmarked ih =>
    exact .cons (fun _ _ => Option.not_isSome_iff_eq_none.mp hmarked) ih

/-! ## Children -/

theorem sublist_insertTexts (more ss : List String) :
    (insertTexts more ss).Sublist (ss ++ more) := by
  unfold insertTexts
  induction more generalizing ss with
  | nil => rw [List.append_nil]; exact .refl ss
  | cons s more ih =>
    have hstep : (insertText s ss).Sublist (ss ++ [s]) := by
      unfold insertText
      split
      · exact List.sublist_append_left ss [s]
      · exact .refl _
    refine (ih (insertText s ss)).trans ?_
    rw [← List.singleton_append, ← List.append_assoc]
    exact hstep.append_right more

/-- The names that are registered with an ancestor stand in the order of the map, each once. -/
theorem sublist_registered {models : ModelMap}
    (hname : ∀ name m, Entries.lookup? name models = some m → m.name = name) (top : String) :
    (((registrations models).filter fun r => r.1 == top).map (·.2)).Sublist
      (Entries.keys models) := by
  have hone : ∀ e ∈ models,
      ((((ancestors models e.1 e.2).map fun a => (a.name, e.1)).filter fun r => r.1 == top).map
        (·.2)).Sublist [e.1] := by
    intro e _
    have hcount := List.nodup_iff_count_le_one.mp (nodup_ancestors hname e.1 e.2) top
    rw [List.count_eq_countP, List.countP_map, List.countP_eq_length_filter] at hcount
    rw [List.filter_map, List.map_map]
    have hreplicate : ((ancestors models e.1 e.2).filter ((· == top) ∘ (·.name))).map
        (fun _ => e.1) = List.replicate _ e.1 := List.map_const' ..
    exact hreplicate ▸ (List.replicate_sublist_replicate e.1).mpr hcount
  have hkeys : Entries.keys models = models.flatMap fun e => [e.1] :=
    (List.flatMap_pure_eq_map Prod.fst models).symm
  rw [registrations, List.filter_flatMap, List.map_flatMap, hkeys]
  exact List.Sublist.flatMap_right models hone

/-! ## Conflicts -/

/-- The conflict between a model and one of its ancestors. -/
def conflict? (name : String) (m a : Model) : Option Diagnostic :=
  match m.discriminator, a.discriminator with
  | some mine, some theirs =>
    if mine.propertyName = theirs.propertyName then none
    else some (conflict name a.name mine theirs)
  | _, _ => none

theorem notes_noteConflict (name : String) (m a : Model) :
    (noteConflict name m a).notes = (conflict? name m a).toList.map .diagnostic := by
  unfold noteConflict conflict?
  cases m.discriminator with
  | none => rfl
  | some mine =>
    cases a.discriminator with
    | none => rfl
    | some theirs =>
      dsimp only
      split <;> rfl

theorem conflict?_eq_some_iff {name : String} {m a : Model} {d : Diagnostic} :
    conflict? name m a = some d ↔ ∃ mine theirs, m.discriminator = some mine ∧
      a.discriminator = some theirs ∧ mine.propertyName ≠ theirs.propertyName ∧
      d = conflict name a.name mine theirs := by
  unfold conflict?
  split
  · next mine theirs hm ha =>
    split
    · simp_all
    · simp_all [eq_comm]
  · simp_all

/-- The conflicts of the models of a map. -/
def conflicts (models : ModelMap) : List Diagnostic :=
  models.flatMap fun e => (ancestors models e.1 e.2).filterMap (conflict? e.1 e.2)

theorem notes_link (models : ModelMap) :
    (link models).notes = (conflicts models).map .diagnostic := by
  have hmodel : ∀ e : String × Model,
      (Noted.mapList (noteConflict e.1 e.2) (ancestors models e.1 e.2)).notes =
        ((ancestors models e.1 e.2).filterMap (conflict? e.1 e.2)).map .diagnostic := by
    intro e
    simp only [Noted.notes_mapList, notes_noteConflict, ← List.map_flatMap,
      List.filterMap_eq_flatMap_toList]
  unfold conflicts link
  rw [Noted.notes_bind, Noted.notes_pure, List.append_nil, Noted.notes_mapList, List.map_flatMap]
  exact congrArg (List.flatMap · models) (funext hmodel)

/-- A model notes a conflict with its last ancestor at most. -/
theorem filterMap_ancestors {models : ModelMap} {name : String} {m a : Model} {d : Diagnostic}
    (ha : a ∈ ancestors models name m) (hd : conflict? name m a = some d) :
    (ancestors models name m).filterMap (conflict? name m) = [d] := by
  have hpairs := unmarked_ancestorsFrom models (models.length + 1) [name] m.parent
  rw [← ancestors] at hpairs
  have hnone : ∀ b : Model, b.discriminator = none → conflict? name m b = none := by
    intro b hb
    unfold conflict?
    rw [hb]
    cases m.discriminator <;> rfl
  generalize ancestors models name m = as at ha hpairs
  induction as with
  | nil => simp at ha
  | cons b as ih =>
    rw [List.pairwise_cons] at hpairs
    rcases List.mem_cons.mp ha with rfl | ha
    · have hlast : as = [] := by
        refine List.eq_nil_iff_forall_not_mem.mpr fun b hb => ?_
        rw [hnone a (hpairs.1 b hb)] at hd
        exact absurd hd (by simp)
      rw [hlast, List.filterMap_cons_some hd, List.filterMap_nil]
    · rw [List.filterMap_cons_none (hnone b (hpairs.1 a ha)), ih ha hpairs.2]

/-- The conflicts at a model are those with its ancestors. -/
theorem filter_conflicts {models : ModelMap} (hn : (Entries.keys models).Nodup) {name : String}
    {m : Model} (hm : Entries.lookup? name models = some m) :
    (conflicts models).filter (·.location = name) =
      (ancestors models name m).filterMap (conflict? name m) := by
  have hlocation : ∀ e : String × Model,
      ∀ d ∈ (ancestors models e.1 e.2).filterMap (conflict? e.1 e.2), d.location = e.1 := by
    intro e d hd
    obtain ⟨a, -, ha⟩ := List.mem_filterMap.mp hd
    obtain ⟨mine, theirs, -, -, -, rfl⟩ := conflict?_eq_some_iff.mp ha
    rfl
  rw [conflicts, List.filter_flatMap]
  refine (Entries.flatMap_eq_of_mem hn (Entries.mem_of_lookup? hm) fun e _ hne => ?_).trans ?_
  · exact List.filter_eq_nil_iff.mpr fun d hd => by simpa [hlocation e d hd] using hne
  · exact List.filter_eq_self.mpr fun d hd => by simpa using hlocation (name, m) d hd

/-- The conflicts between a model and its ancestors are those with the first ancestor that has a
discriminator. -/
theorem exists_conflict?_iff {models : ModelMap}
    (hname : ∀ name m, Entries.lookup? name models = some m → m.name = name) {name : String}
    {m : Model} (hm : Entries.lookup? name models = some m) {d : Diagnostic} :
    (∃ a ∈ ancestors models name m, conflict? name m a = some d) ↔
      ∃ top mine theirs, Conflicting models name top mine theirs ∧
        d = conflict name top mine theirs := by
  constructor
  · rintro ⟨a, ha, hd⟩
    obtain ⟨mine, theirs, hmine, htheirs, hne, rfl⟩ := conflict?_eq_some_iff.mp hd
    obtain ⟨between, top, hl, hta, hu⟩ := (mem_ancestors_iff hm).mp ha
    refine ⟨top, mine, theirs, ⟨⟨between, hl, hu⟩, ?_, ?_, hne⟩, by rw [hname top a hta]⟩
    · rw [discriminatorOf?, hm, Option.bind_some, hmine]
    · rw [discriminatorOf?, hta, Option.bind_some, htheirs]
  · rintro ⟨top, mine, theirs, ⟨⟨between, hl, hu⟩, hmine, htheirs, hne⟩, rfl⟩
    obtain ⟨a, hta, ha⟩ := Option.bind_eq_some_iff.mp htheirs
    rw [discriminatorOf?, hm, Option.bind_some] at hmine
    refine ⟨a, (mem_ancestors_iff hm).mpr ⟨between, top, hl, hta, hu⟩, ?_⟩
    exact conflict?_eq_some_iff.mpr ⟨mine, theirs, hmine, ha, hne, by rw [hname top a hta]⟩

/-! ## Linking -/

theorem linked_of_lookup? {models : ModelMap} (hn : (Entries.keys models).Nodup)
    (hname : ∀ name m, Entries.lookup? name models = some m → m.name = name)
    (hchildren : ∀ name m, Entries.lookup? name models = some m → m.children = []) {name : String}
    {p : Model} (hp : Entries.lookup? name (link models).value = some p) :
    ∃ m, Entries.lookup? name models = some m ∧ Linked models m p := by
  have hmem : ∀ child, child ∈ p.children ↔ Reaches models child name :=
    fun _ => mem_children_link_iff hn hname hchildren hp
  rw [lookup?_link] at hp
  obtain ⟨m, hm, hmp⟩ := Option.map_eq_some_iff.mp hp
  have hcontains : ∀ key, Entries.contains key models = decide (key ∈ Entries.keys models) := by
    intro key
    rw [Bool.eq_iff_iff, Entries.contains_iff, decide_eq_true_iff]
  have hordered : p.children.Sublist (Entries.keys models) := by
    rw [← hmp, hchildren name m hm]
    exact (sublist_insertTexts _ []).trans (sublist_registered hname name)
  refine ⟨m, hm, ?_, hordered, hn.sublist hordered, fun child => ?_⟩
  · rw [← hmp]
    simp only [hcontains]
  · rw [hmem child, hname name m hm]
    exact ⟨fun h => ⟨Reaches.ne h, h⟩, fun h => h.2⟩

/-- Linking keeps the names and the order of the models. It marks the parents and the interfaces
that are models, makes each model a child of the ancestors that it reaches, in the order of the map
and each once, and changes nothing else. One conflict is reported at each model that is told apart
from the first ancestor with a discriminator by another property, and nothing else is reported. -/
theorem linked_link {models : ModelMap} (hn : (Entries.keys models).Nodup)
    (hname : ∀ e ∈ models, e.2.name = e.1) (hchildren : ∀ e ∈ models, e.2.children = []) :
    List.Forall₂ (fun e f => f.1 = e.1 ∧ Linked models e.2 f.2) models (link models).value ∧
    ∃ reported : List Diagnostic,
      (∀ log : Log, log.addAll (link models).notes =
        { log with entries := log.entries ++ reported }) ∧
      (∀ name top mine theirs, Conflicting models name top mine theirs →
        reported.filter (·.location = name) = [conflict name top mine theirs]) ∧
      ∀ d ∈ reported, ∃ name top mine theirs, Conflicting models name top mine theirs ∧
        d = conflict name top mine theirs := by
  have hnames : ∀ name m, Entries.lookup? name models = some m → m.name = name :=
    fun name m hm => hname (name, m) (Entries.mem_of_lookup? hm)
  have hempty : ∀ name m, Entries.lookup? name models = some m → m.children = [] :=
    fun name m hm => hchildren (name, m) (Entries.mem_of_lookup? hm)
  refine ⟨Entries.forall₂_of_lookup? (keys_link models) hn fun _ _ =>
    linked_of_lookup? hn hnames hempty, conflicts models, fun log => ?_, ?_, ?_⟩
  · rw [notes_link, Log.addAll_diagnostics]
  · intro name top mine theirs h
    obtain ⟨m, hm, -⟩ := Option.bind_eq_some_iff.mp h.own
    obtain ⟨a, ha, hd⟩ := (exists_conflict?_iff hnames hm).mpr ⟨top, mine, theirs, h, rfl⟩
    rw [filter_conflicts hn hm, filterMap_ancestors ha hd]
  · intro d hd
    obtain ⟨⟨name, m⟩, hm, hd⟩ := List.mem_flatMap.mp hd
    obtain ⟨a, ha, hd⟩ := List.mem_filterMap.mp hd
    obtain ⟨top, mine, theirs, h⟩ :=
      (exists_conflict?_iff hnames (Entries.lookup?_of_mem hn hm)).mp ⟨a, ha, hd⟩
    exact ⟨name, top, mine, theirs, h⟩

/-- Three models in a chain, two of which have a discriminator; two models that are each other's
parent; and a model whose parent is unknown. -/
def strayPets : ModelMap := [
  ("Animal", { name := "Animal", className := "Animal", discriminator := some ⟨"kind", []⟩ }),
  ("Cat", { name := "Cat", className := "Cat", parent := some "Pet" }),
  ("Pet", { name := "Pet", className := "Pet", parent := some "Animal"
            discriminator := some ⟨"type", []⟩ }),
  ("Sun", { name := "Sun", className := "Sun", parent := some "Moon" }),
  ("Moon", { name := "Moon", className := "Moon", parent := some "Sun" }),
  ("Stray", { name := "Stray", className := "Stray", parent := some "Gone"
              interfaces := ["Cat", "Gone", "Sun"] })]

theorem linked_link_strayPets :
    (Entries.keys strayPets).Nodup ∧ (∀ e ∈ strayPets, e.2.name = e.1) ∧
      (∀ e ∈ strayPets, e.2.children = []) ∧
      (link strayPets).value.map (fun e => (e.2.parentModel, e.2.children, e.2.interfaceModels)) =
        [(none, ["Pet"], []), (some "Pet", [], []), (some "Animal", ["Cat"], []),
          (some "Moon", ["Moon"], []), (some "Sun", ["Sun"], []), (none, [], ["Cat", "Sun"])] ∧
      (link strayPets).notes = [.diagnostic (conflict "Pet" "Animal" ⟨"type", []⟩ ⟨"kind", []⟩)] ∧
      List.Forall₂ (fun e f => f.1 = e.1 ∧ Linked strayPets e.2 f.2) strayPets
        (link strayPets).value ∧
      ∃ reported : List Diagnostic, ∀ name top mine theirs,
        Conflicting strayPets name top mine theirs →
          reported.filter (·.location = name) = [conflict name top mine theirs] := by
  obtain ⟨hlinked, reported, -, hreported, -⟩ :=
    @linked_link strayPets (by decide) (by decide) (by decide)
  exact ⟨by decide, by decide, by decide, by decide +kernel, by decide +kernel, hlinked, reported,
    hreported⟩

end ModelMap
end ApiResolution
