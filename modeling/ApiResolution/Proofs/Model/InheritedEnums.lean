import ApiResolution.Model.Enum
import ApiResolution.Proofs.Model.Finished
import ApiResolution.Proofs.Model.Stages
import Mathlib.Data.Set.Finite.Basic
import Mathlib.Logic.Relation
import Mathlib.Order.WellFounded

/-!
Dropping inherited enums. A model loses its members of a name exactly if one of them is an enum that
its parent declares (`hasMember_dropInheritedEnums_iff`). So a member that is no enum goes with an
inherited one of its name, and an enum that is declared all around a loop of parents is lost in every
model of the loop. Where the members of each model have different names only the second case is left:
a lost member is an enum, and an ancestor still declares it unless it is inherited all around a loop
(`stillDeclared_iff_not_inheritedAround`).
-/

namespace ApiResolution

namespace Model

theorem sameEnum_iff {p q : Property} :
    sameEnum p q = true ↔ p.isEnum = true ∧ q.isEnum = true ∧ p.name = q.name ∧
      p.baseType = q.baseType ∧ p.datatype = q.datatype := by
  simp [sameEnum, and_assoc]

theorem sameEnum_congr {p q : Property} (h : sameEnum p q = true) (r : Property) :
    sameEnum r p = sameEnum r q := by
  obtain ⟨hp, hq, hname, hbase, hdatatype⟩ := sameEnum_iff.mp h
  rw [sameEnum, sameEnum, hp, hq, hname, hbase, hdatatype]

end Model

namespace ModelMap

/-- Under the name there is a model with the member; its mark does not count. -/
def HasMember (models : ModelMap) (name : String) (p : Property) : Prop :=
  ∃ m, Entries.lookup? name models = some m ∧ p.unmarked ∈ m.vars.map Property.unmarked

/-- Under the name there is a model with the same enum. -/
def Declares (models : ModelMap) (name : String) (p : Property) : Prop :=
  ∃ m, Entries.lookup? name models = some m ∧ ∃ q ∈ m.vars, Model.sameEnum q p = true

/-- The marked parent of a model is a model of the map. -/
def ParentLink (models : ModelMap) (name parent : String) : Prop :=
  (Entries.lookup? name models).bind (·.parentModel) = some parent ∧ parent ∈ Entries.keys models

/-- One or more parent links lead from a model to another one. -/
def Ascends (models : ModelMap) : String → String → Prop := Relation.TransGen (ParentLink models)

/-- The parent of a model declares the enum. -/
def Inherits (models : ModelMap) (name : String) (p : Property) : Prop :=
  ∃ parent, ParentLink models name parent ∧ Declares models parent p

/-- A model has a member of the given name that its parent declares. -/
def Redeclares (models : ModelMap) (name member : String) : Prop :=
  ∃ m, Entries.lookup? name models = some m ∧
    ∃ q ∈ m.vars, q.name = member ∧ Inherits models name q

/-- Another model that is reached along parent links still declares the enum when the inherited ones
are dropped. -/
def StillDeclared (models : ModelMap) (name : String) (p : Property) : Prop :=
  ∃ top, top ≠ name ∧ Ascends models name top ∧ Declares (dropInheritedEnums models) top p

variable {models : ModelMap} {name : String} {m : Model} {p : Property}

theorem ParentLink.unique {parent other : String} (h : ParentLink models name parent)
    (h' : ParentLink models name other) : parent = other :=
  Option.some.inj (h.1.symm.trans h'.1)

theorem inherits_congr {q : Property} (h : Model.sameEnum p q = true) :
    Inherits models name p ↔ Inherits models name q := by
  simp only [Inherits, Declares, Model.sameEnum_congr h]

/-! ## What is dropped -/

/-- The names of the members that are dropped from a model. -/
def droppedNames (models : ModelMap) (m : Model) : List String :=
  match m.parentModel.bind (Entries.lookup? · models) with
  | some parent => Model.inheritedEnums parent m
  | none => []

theorem redeclared_eq (models : ModelMap) :
    redeclared models = (Entries.values models).filterMap fun m =>
      if (droppedNames models m).isEmpty then none else some (m.name, droppedNames models m) := by
  unfold redeclared
  congr 1
  funext m
  rw [droppedNames]
  cases m.parentModel with
  | none => rfl
  | some parent =>
    change (Entries.lookup? parent models).bind _ = _
    rw [Option.bind_some]
    cases Entries.lookup? parent models <;> rfl

theorem mem_redeclared_iff (hname : ∀ e ∈ models, e.2.name = e.1) {names : List String} :
    (name, names) ∈ redeclared models ↔
      ∃ m, (name, m) ∈ models ∧ names = droppedNames models m ∧ names ≠ [] := by
  rw [redeclared_eq, List.mem_filterMap]
  constructor
  · rintro ⟨m, hm, hsome⟩
    obtain ⟨e, he, rfl⟩ := List.mem_map.mp hm
    split at hsome
    · exact absurd hsome (by simp)
    · next hnames =>
      obtain ⟨rfl, rfl⟩ := Prod.mk.inj (Option.some.inj hsome)
      rw [hname e he]
      exact ⟨e.2, he, rfl, by simpa using hnames⟩
  · rintro ⟨m, hm, rfl, hnames⟩
    refine ⟨m, List.mem_map.mpr ⟨_, hm, rfl⟩, ?_⟩
    rw [if_neg (by simpa using hnames)]
    exact congrArg (fun key => some (key, _)) (hname _ hm)

theorem nodup_keys_redeclared (hn : (Entries.keys models).Nodup)
    (hname : ∀ e ∈ models, e.2.name = e.1) : (Entries.keys (redeclared models)).Nodup := by
  have hnames : (Entries.values models).map (·.name) = Entries.keys models := by
    rw [Entries.values, List.map_map]
    exact List.map_congr_left hname
  rw [redeclared_eq]
  generalize droppedNames models = dropped
  rw [← hnames] at hn
  refine hn.sublist ?_
  induction Entries.values models with
  | nil => exact List.Sublist.refl _
  | cons m ms ih =>
    rw [List.filterMap_cons, List.map_cons]
    split
    · exact ih.cons _
    · next hsome =>
      split at hsome
      · exact absurd hsome (by simp)
      · obtain rfl := Option.some.inj hsome
        exact ih.cons_cons _

theorem mem_droppedNames_iff (hm : Entries.lookup? name models = some m) {member : String} :
    member ∈ droppedNames models m ↔ Redeclares models name member := by
  have hlink : ∀ parent, ParentLink models name parent ↔
      m.parentModel = some parent ∧ parent ∈ Entries.keys models := by
    intro parent
    rw [ParentLink, hm, Option.bind_some]
  constructor
  · intro h
    cases hparent : m.parentModel.bind (Entries.lookup? · models) with
    | none => simp [droppedNames, hparent] at h
    | some pm =>
      rw [droppedNames, hparent] at h
      obtain ⟨parent, hp, hpm⟩ := Option.bind_eq_some_iff.mp hparent
      obtain ⟨q, hq, hqname⟩ := List.mem_map.mp h
      obtain ⟨hq, hany⟩ := List.mem_filter.mp hq
      obtain ⟨r, hr, hsame⟩ := List.any_eq_true.mp hany
      exact ⟨m, hm, q, hq, hqname, parent, (hlink parent).mpr ⟨hp, Entries.mem_keys_of_lookup? hpm⟩,
        pm, hpm, r, hr, hsame⟩
  · rintro ⟨m', hm', q, hq, hqname, parent, hparent, pm, hpm, r, hr, hsame⟩
    obtain rfl := Option.some.inj (hm.symm.trans hm')
    rw [droppedNames, ((hlink parent).mp hparent).1, Option.bind_some, hpm]
    exact List.mem_map.mpr
      ⟨q, List.mem_filter.mpr ⟨hq, List.any_eq_true.mpr ⟨r, hr, hsame⟩⟩, hqname⟩

section Pass

variable (hn : (Entries.keys models).Nodup) (hname : ∀ e ∈ models, e.2.name = e.1)
include hn hname

theorem lookup?_redeclared (hm : Entries.lookup? name models = some m) :
    Entries.lookup? name (redeclared models) =
      if droppedNames models m = [] then none else some (droppedNames models m) := by
  have hnodup := nodup_keys_redeclared hn hname
  split
  · next hnames =>
    rw [Option.eq_none_iff_forall_ne_some]
    intro names hsome
    obtain ⟨m', hm', rfl, hne⟩ := (mem_redeclared_iff hname).mp (Entries.mem_of_lookup? hsome)
    obtain rfl := Option.some.inj (hm.symm.trans (Entries.lookup?_of_mem hn hm'))
    exact hne hnames
  · next hnames =>
    exact Entries.lookup?_of_mem hnodup
      ((mem_redeclared_iff hname).mpr ⟨m, Entries.mem_of_lookup? hm, rfl, hnames⟩)

/-- The pass leaves a model those members whose name it does not declare again, in order. -/
theorem exists_lookup?_dropInheritedEnums (hm : Entries.lookup? name models = some m) :
    ∃ after, Entries.lookup? name (dropInheritedEnums models) = some after ∧
      after.vars.map Property.unmarked =
        (m.vars.filter fun p => p.name ∉ droppedNames models m).map Property.unmarked := by
  have hlookup := Entries.lookup?_foldl_modify_of_nodup Model.dropVars
    (nodup_keys_redeclared hn hname) models name
  rw [hm, lookup?_redeclared hn hname hm] at hlookup
  refine ⟨_, hlookup, ?_⟩
  dsimp only
  split
  · next hnames => simp [hnames]
  · have hvars : (Model.dropVars (droppedNames models m) m).vars = Property.markHasMore
        (m.vars.filter fun p => !(droppedNames models m).contains p.name) := rfl
    rw [Option.map_some, Option.getD_some, hvars, Property.map_unmarked_markHasMore]
    simp

theorem exists_member_iff {P : Property → Prop} (hP : ∀ p, P p.unmarked ↔ P p) :
    (∃ after, Entries.lookup? name (dropInheritedEnums models) = some after ∧
        ∃ q ∈ after.vars, P q) ↔
      ∃ m, Entries.lookup? name models = some m ∧
        ∃ q ∈ m.vars, P q ∧ ¬ Redeclares models name q.name := by
  have hunmarked : ∀ ps : List Property, (∃ q ∈ ps, P q) ↔ ∃ q ∈ ps.map Property.unmarked, P q := by
    intro ps
    simp only [List.mem_map, exists_exists_and_eq_and, hP]
  constructor
  · rintro ⟨after, hafter, hq⟩
    have hkey : name ∈ Entries.keys models := by
      rw [← keys_dropInheritedEnums]
      exact Entries.mem_keys_of_lookup? hafter
    obtain ⟨m, hm⟩ := Entries.exists_lookup?_of_mem_keys hkey
    obtain ⟨after', hafter', hvars⟩ := exists_lookup?_dropInheritedEnums hn hname hm
    obtain rfl := Option.some.inj (hafter.symm.trans hafter')
    rw [hunmarked, hvars, ← hunmarked] at hq
    obtain ⟨q, hq, hPq⟩ := hq
    obtain ⟨hq, hstays⟩ := List.mem_filter.mp hq
    exact ⟨m, hm, q, hq, hPq, (mem_droppedNames_iff hm).not.mp (of_decide_eq_true hstays)⟩
  · rintro ⟨m, hm, q, hq, hPq, hstays⟩
    obtain ⟨after, hafter, hvars⟩ := exists_lookup?_dropInheritedEnums hn hname hm
    refine ⟨after, hafter, ?_⟩
    rw [hunmarked, hvars, ← hunmarked]
    exact ⟨q, List.mem_filter.mpr
      ⟨hq, decide_eq_true ((mem_droppedNames_iff hm).not.mpr hstays)⟩, hPq⟩

/-- A member stays exactly if the model declares no member of its name again. -/
theorem hasMember_dropInheritedEnums_iff :
    HasMember (dropInheritedEnums models) name p ↔
      HasMember models name p ∧ ¬ Redeclares models name p.name := by
  have hmember : ∀ ms : ModelMap, HasMember ms name p ↔ ∃ m, Entries.lookup? name ms = some m ∧
      ∃ q ∈ m.vars, q.unmarked = p.unmarked := by
    intro ms
    simp only [HasMember, List.mem_map]
  rw [hmember, hmember, exists_member_iff hn hname (P := fun q => q.unmarked = p.unmarked)
    fun q => Iff.rfl]
  constructor
  · rintro ⟨m, hm, q, hq, hsame, hstays⟩
    have hnames : q.name = p.name := congrArg (·.name) hsame
    exact ⟨⟨m, hm, q, hq, hsame⟩, hnames ▸ hstays⟩
  · rintro ⟨⟨m, hm, q, hq, hsame⟩, hstays⟩
    have hnames : q.name = p.name := congrArg (·.name) hsame
    exact ⟨m, hm, q, hq, hsame, hnames ▸ hstays⟩

theorem declares_dropInheritedEnums_iff :
    Declares (dropInheritedEnums models) name p ↔
      Declares models name p ∧ ¬ Redeclares models name p.name := by
  rw [Declares, exists_member_iff hn hname (P := fun q => Model.sameEnum q p = true)
    fun q => Iff.rfl]
  constructor
  · rintro ⟨m, hm, q, hq, hsame, hstays⟩
    exact ⟨⟨m, hm, q, hq, hsame⟩, (Model.sameEnum_iff.mp hsame).2.2.1 ▸ hstays⟩
  · rintro ⟨⟨m, hm, q, hq, hsame⟩, hstays⟩
    exact ⟨m, hm, q, hq, hsame, (Model.sameEnum_iff.mp hsame).2.2.1 ▸ hstays⟩

end Pass

/-! ## Members of different names -/

theorem Inherits.isEnum (h : Inherits models name p) : p.isEnum = true := by
  obtain ⟨parent, -, pm, -, q, -, hsame⟩ := h
  exact (Model.sameEnum_iff.mp hsame).2.1

/-- Where the members of a model have different names, it declares the name of an enum again exactly if
it inherits that enum. -/
theorem redeclares_iff_inherits (hdistinct : ∀ e ∈ models, (e.2.vars.map (·.name)).Nodup)
    (hm : Entries.lookup? name models = some m) {q : Property} (hq : q ∈ m.vars) :
    Redeclares models name q.name ↔ Inherits models name q := by
  constructor
  · rintro ⟨m', hm', r, hr, hnames, hinherits⟩
    obtain rfl := Option.some.inj (hm.symm.trans hm')
    obtain rfl := List.inj_on_of_nodup_map (hdistinct _ (Entries.mem_of_lookup? hm)) hr hq hnames
    exact hinherits
  · exact fun h => ⟨m, hm, q, hq, rfl, h⟩

/-- On the way to a model that does not inherit an enum there is one that declares it first. -/
theorem exists_declares_of_ascends {top : String} (h : Ascends models name top)
    (hinherits : Inherits models name p) (htop : ¬ Inherits models top p) :
    ∃ first, Ascends models name first ∧ Declares models first p ∧ ¬ Inherits models first p := by
  induction h using Relation.TransGen.head_induction_on with
  | single hlink =>
    obtain ⟨parent, hparent, hdeclares⟩ := hinherits
    obtain rfl := hlink.unique hparent
    exact ⟨_, .single hlink, hdeclares, htop⟩
  | @head a next hlink hrest ih =>
    by_cases hnext : Inherits models next p
    · obtain ⟨first, hfirst, hdeclares, hends⟩ := ih hnext
      exact ⟨first, .head hlink hfirst, hdeclares, hends⟩
    · obtain ⟨parent, hparent, hdeclares⟩ := hinherits
      obtain rfl := hlink.unique hparent
      exact ⟨_, .single hlink, hdeclares, hnext⟩

theorem Ascends.mem_keys {top : String} (h : Ascends models name top) : top ∈ Entries.keys models := by
  cases h with
  | single hlink => exact hlink.2
  | tail _ hlink => exact hlink.2

/-- Parents that all inherit an enum go round in a loop. -/
theorem exists_loop_of_inherits (hfirst : Inherits models name p)
    (hall : ∀ top, Ascends models name top → Inherits models top p) :
    ∃ knot, Ascends models name knot ∧ Ascends models knot knot := by
  by_contra hnone
  -- Without a loop one of the finitely many ancestors is the topmost, but that one has a parent too.
  have hfinite : { top | Ascends models name top }.Finite :=
    (List.finite_toSet (Entries.keys models)).subset fun _ => Ascends.mem_keys
  have : Finite { top // Ascends models name top } := hfinite.to_subtype
  let above (a b : { top // Ascends models name top }) : Prop := Ascends models b a
  have : IsTrans _ above := ⟨fun _ _ _ hab hbc => Relation.TransGen.trans hbc hab⟩
  have : Std.Irrefl above := ⟨fun a ha => hnone ⟨a, a.2, ha⟩⟩
  obtain ⟨parent, hparent, -⟩ := hfirst
  obtain ⟨⟨top, hascends⟩, -, htop⟩ := (Finite.wellFounded_of_trans_of_irrefl above).has_min
    Set.univ ⟨⟨parent, .single hparent⟩, trivial⟩
  obtain ⟨next, hlink, -⟩ := hall top hascends
  exact htop ⟨next, hascends.tail hlink⟩ trivial (.single hlink)

/-- The parents of a model go round in a loop, and all of them inherit the enum. -/
structure InheritedAround (models : ModelMap) (name : String) (p : Property) : Prop where
  loop : ∃ knot, Ascends models name knot ∧ Ascends models knot knot
  inherits : ∀ top, Ascends models name top → Inherits models top p

section Pass

variable (hn : (Entries.keys models).Nodup) (hname : ∀ e ∈ models, e.2.name = e.1)
include hn hname

/-- Where members have different names, an enum that a model inherits is still declared above it, unless
it is inherited all around. -/
theorem stillDeclared_iff_not_inheritedAround
    (hdistinct : ∀ e ∈ models, (e.2.vars.map (·.name)).Nodup) (hfirst : Inherits models name p) :
    StillDeclared models name p ↔ ¬ InheritedAround models name p := by
  have hends : ∀ top, Declares (dropInheritedEnums models) top p ↔
      Declares models top p ∧ ¬ Inherits models top p := by
    intro top
    rw [declares_dropInheritedEnums_iff hn hname]
    refine and_congr_right ?_
    rintro ⟨m, hm, q, hq, hsame⟩
    rw [← (Model.sameEnum_iff.mp hsame).2.2.1, redeclares_iff_inherits hdistinct hm hq,
      inherits_congr hsame]
  constructor
  · rintro ⟨top, -, hascends, hdeclares⟩ haround
    exact ((hends top).mp hdeclares).2 (haround.inherits top hascends)
  · intro haround
    have hsome : ∃ top, Ascends models name top ∧ ¬ Inherits models top p := by
      by_contra hnone
      have hall : ∀ top, Ascends models name top → Inherits models top p := fun top htop => by
        by_contra hnot
        exact hnone ⟨top, htop, hnot⟩
      exact haround ⟨exists_loop_of_inherits hfirst hall, hall⟩
    obtain ⟨top, hascends, htop⟩ := hsome
    obtain ⟨first, hreached, hdeclares, hnot⟩ := exists_declares_of_ascends hascends hfirst htop
    refine ⟨first, ?_, hreached, (hends first).mpr ⟨hdeclares, hnot⟩⟩
    rintro rfl
    exact hnot hfirst

/-- Dropping inherited enums. A model loses a member exactly if it has a member of that name that its
parent declares. An enum is still declared above the model exactly if some other ancestor that
declared it has no member of its name that the parent of that ancestor declares. Where the members
of each model have different names, only enums are lost, and a lost one is still declared above
unless it is inherited all around a loop of parents. -/
theorem lost_dropInheritedEnums_iff (hp : HasMember models name p) :
    (¬ HasMember (dropInheritedEnums models) name p ↔ Redeclares models name p.name) ∧
      (StillDeclared models name p ↔ ∃ top, top ≠ name ∧ Ascends models name top ∧
        Declares models top p ∧ ¬ Redeclares models top p.name) ∧
      ((∀ e ∈ models, (e.2.vars.map (·.name)).Nodup) →
        ¬ HasMember (dropInheritedEnums models) name p →
          p.isEnum = true ∧ (StillDeclared models name p ↔ ¬ InheritedAround models name p)) := by
  have hlost : ¬ HasMember (dropInheritedEnums models) name p ↔
      Redeclares models name p.name := by
    rw [hasMember_dropInheritedEnums_iff hn hname]
    simp [hp]
  refine ⟨hlost, ?_, fun hdistinct hgone => ?_⟩
  · simp only [StillDeclared, declares_dropInheritedEnums_iff hn hname]
  · obtain ⟨m, hm, hmem⟩ := hp
    obtain ⟨q, hq, hqp⟩ := List.mem_map.mp hmem
    have hnames : q.name = p.name := congrArg (·.name) hqp
    have henums : q.isEnum = p.isEnum := congrArg (·.isEnum) hqp
    have hinherits : Inherits models name q := by
      rw [← redeclares_iff_inherits hdistinct hm hq, hnames]
      exact hlost.mp hgone
    have hsame : Model.sameEnum q p = true := Model.sameEnum_iff.mpr
      ⟨hinherits.isEnum, henums ▸ hinherits.isEnum, hnames, congrArg (·.baseType) hqp,
        congrArg (·.datatype) hqp⟩
    exact ⟨henums ▸ hinherits.isEnum, stillDeclared_iff_not_inheritedAround hn hname hdistinct
      ((inherits_congr hsame).mp hinherits)⟩

end Pass

/-- A member of texts that lists its values. -/
def coatColor : Property :=
  { name := "coat_color", baseName := "coat-color", baseType := "string", datatype := "string"
    isEnum := true }

/-- A chain of three models that all declare an enum. -/
def tabbyPets : ModelMap := [
  ("Kitten", { name := "Kitten", className := "Kitten", parentModel := some "Cat"
               vars := [coatColor] }),
  ("Cat", { name := "Cat", className := "Cat", parentModel := some "Pet", vars := [coatColor] }),
  ("Pet", { name := "Pet", className := "Pet", vars := [coatColor] })]

/-- Both lower models lose the enum at once, and the top of the chain still declares it. -/
theorem lost_tabbyPets :
    HasMember tabbyPets "Kitten" coatColor ∧
      ¬ HasMember (dropInheritedEnums tabbyPets) "Kitten" coatColor ∧
      coatColor.isEnum = true ∧ StillDeclared tabbyPets "Kitten" coatColor := by
  have hkitten : HasMember tabbyPets "Kitten" coatColor := ⟨_, rfl, List.mem_cons_self⟩
  have hcat : ParentLink tabbyPets "Kitten" "Cat" := ⟨by decide, by decide⟩
  have hpet : ParentLink tabbyPets "Cat" "Pet" := ⟨by decide, by decide⟩
  obtain ⟨hlost, -, hkept⟩ := @lost_dropInheritedEnums_iff tabbyPets "Kitten" coatColor
    (by decide) (by decide) hkitten
  have hgone := hlost.mpr ⟨_, rfl, coatColor, List.mem_cons_self, rfl, "Cat", hcat, _, rfl,
    coatColor, List.mem_cons_self, by decide⟩
  obtain ⟨henum, hstill⟩ := hkept (by decide) hgone
  refine ⟨hkitten, hgone, henum, hstill.mpr fun haround => ?_⟩
  obtain ⟨parent, hparent, -⟩ := haround.inherits "Pet" (.tail (.single hcat) hpet)
  exact absurd hparent.1 (by simp [tabbyPets, Entries.lookup?])

/-- Another member that lists its values. -/
def moonPhase : Property :=
  { name := "phase", baseName := "phase", baseType := "string", datatype := "string"
    isEnum := true }

/-- A model with a number under the name of an enum that it inherits, and two models that are each
other's parents and declare an enum. -/
def namesakePets : ModelMap := [
  ("Pet", { name := "Pet", className := "Pet", vars := [coatColor] }),
  ("Cat", { name := "Cat", className := "Cat", parentModel := some "Pet"
            vars := [coatColor, { name := "coat_color", baseName := "coat.color"
                                  baseType := "integer", datatype := "integer" }] }),
  ("Sun", { name := "Sun", className := "Sun", parentModel := some "Moon", vars := [moonPhase] }),
  ("Moon", { name := "Moon", className := "Moon", parentModel := some "Sun"
             vars := [moonPhase] })]

/-- The number goes with the enum of its name, and the enum of the loop is left in no model. -/
theorem not_stillDeclared_namesakePets :
    (∃ p, HasMember namesakePets "Cat" p ∧ p.isEnum = false ∧
      ¬ HasMember (dropInheritedEnums namesakePets) "Cat" p) ∧
    ∃ p, HasMember namesakePets "Sun" p ∧ p.isEnum = true ∧
      ¬ HasMember (dropInheritedEnums namesakePets) "Sun" p ∧
      ¬ StillDeclared namesakePets "Sun" p := by
  have hempty : ∀ name ∈ ["Cat", "Sun"], ((Entries.lookup? name
      (dropInheritedEnums namesakePets)).map (·.vars.isEmpty)) = some true := by decide +kernel
  have hgone : ∀ name ∈ ["Cat", "Sun"], ∀ p,
      ¬ HasMember (dropInheritedEnums namesakePets) name p := by
    rintro name hname p ⟨m, hm, hp⟩
    have hvars := hempty name hname
    rw [hm, Option.map_some, Option.some.injEq, List.isEmpty_iff] at hvars
    simp [hvars] at hp
  have hnone : ∀ e ∈ dropInheritedEnums namesakePets,
      e.2.vars.any (Model.sameEnum · moonPhase) = false := by decide +kernel
  refine ⟨⟨_, ⟨_, rfl, List.mem_cons_of_mem _ List.mem_cons_self⟩, rfl, hgone "Cat" (by decide) _⟩,
    moonPhase, ⟨_, rfl, List.mem_cons_self⟩, rfl, hgone "Sun" (by decide) _, ?_⟩
  rintro ⟨top, -, -, m, hm, hdeclares⟩
  have hany := List.any_eq_true.mpr hdeclares
  rw [hnone _ (Entries.mem_of_lookup? hm)] at hany
  exact absurd hany (by simp)

end ModelMap
end ApiResolution
