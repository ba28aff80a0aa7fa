import ApiResolution.Model.Members
import ApiResolution.Proofs.Entries
import Mathlib.Data.Finset.Card

/-!
The way that members are collected along. `Tour` walks through branches and named schemas, each name
once, without a bound on its steps; `exists_tour` says that collecting takes such a tour and adds the
declarations of the schemas that the tour passes, in that order. A tour passes exactly the schemas
that are reached over branches and references (`Tour.mem_passed_iff`), so neither the bound nor the
order in which names are met takes anything away.
-/

namespace ApiResolution

/-- The schemas that a schema combines. -/
def Schema.allOf (s : Schema) : List Schema :=
  match s.shape with
  | .composed allOf _ _ _ _ => allOf
  | _ => []

namespace Members

/-- A schema is reached from another one over branches and over references to names that are not
blocked. -/
inductive Reaches (c : Context) (blocked : List String) : Schema → Schema → Prop
  | here (s : Schema) : Reaches c blocked s s
  | branch {s b t : Schema} (hb : b ∈ s.allOf) (ht : Reaches c blocked b t) : Reaches c blocked s t
  | named {s target t : Schema} {name : String} (hn : c.refName? s = some name)
      (hfree : name ∉ blocked) (hs : c.schema? name = some target)
      (ht : Reaches c blocked target t) : Reaches c blocked s t

/-- A tour through schemas: the names that were seen before and those seen afterwards, and between
them the schemas that it passes. A schema is passed after its branches, and the schema of a name only
where the name was not seen. -/
inductive Tour (c : Context) : List Schema → List String → List Schema → List String → Prop
  | done {seen : List String} : Tour c [] seen [] seen
  | skip {s : Schema} {ss passed : List Schema} {name : String} {seen seen' : List String}
      (hn : c.refName? s = some name) (hseen : name ∈ seen)
      (hrest : Tour c ss seen passed seen') : Tour c (s :: ss) seen passed seen'
  | follow {s : Schema} {ss inner passed : List Schema} {name : String}
      {seen between seen' : List String} (hn : c.refName? s = some name) (hseen : name ∉ seen)
      (hinner : Tour c (c.schema? name).toList (name :: seen) inner between)
      (hrest : Tour c ss between passed seen') : Tour c (s :: ss) seen (inner ++ passed) seen'
  | pass {s : Schema} {ss inner passed : List Schema} {seen between seen' : List String}
      (hn : c.refName? s = none) (hinner : Tour c s.allOf seen inner between)
      (hrest : Tour c ss between passed seen') : Tour c (s :: ss) seen (inner ++ s :: passed) seen'

variable {c : Context}

/-! ## What a tour passes -/

theorem Reaches.mono {blocked blocked' : List String} (h : blocked' ⊆ blocked) {s t : Schema}
    (ht : Reaches c blocked s t) : Reaches c blocked' s t := by
  induction ht with
  | here s => exact .here s
  | branch hb _ ih => exact .branch hb ih
  | named hn hfree hs _ ih => exact .named hn (fun hmem => hfree (h hmem)) hs ih

theorem Tour.seen_subset {ss passed : List Schema} {seen seen' : List String}
    (h : Tour c ss seen passed seen') : seen ⊆ seen' := by
  induction h with
  | done => exact List.Subset.refl _
  | skip _ _ _ ih => exact ih
  | follow _ _ _ _ ihinner ihrest =>
    exact List.Subset.trans (List.Subset.trans (List.subset_cons_self _ _) ihinner) ihrest
  | pass _ _ _ ihinner ihrest => exact List.Subset.trans ihinner ihrest

theorem Tour.append {ss ts passed passed' : List Schema} {seen between seen' : List String}
    (h : Tour c ss seen passed between) (h' : Tour c ts between passed' seen') :
    Tour c (ss ++ ts) seen (passed ++ passed') seen' := by
  induction h with
  | done => exact h'
  | skip hn hseen _ ih => exact .skip hn hseen (ih h')
  | follow hn hseen hinner _ _ ih =>
    rw [List.append_assoc]
    exact .follow hn hseen hinner (ih h')
  | pass hn hinner _ _ ih =>
    rw [List.append_assoc]
    exact .pass hn hinner (ih h')

theorem Tour.exists_reaches {ss passed : List Schema} {seen seen' : List String}
    (h : Tour c ss seen passed seen') {t : Schema} (ht : t ∈ passed) :
    c.refName? t = none ∧ ∃ s ∈ ss, Reaches c seen s t := by
  induction h with
  | done => simp at ht
  | skip _ _ _ ih =>
    obtain ⟨hn, s, hs, hst⟩ := ih ht
    exact ⟨hn, s, List.mem_cons_of_mem _ hs, hst⟩
  | @follow s ss inner passed name seen between seen' hname hseen hinner _ ihinner ihrest =>
    rcases List.mem_append.mp ht with ht | ht
    · obtain ⟨hn, target, htarget, hst⟩ := ihinner ht
      refine ⟨hn, s, List.mem_cons_self, .named hname hseen (Option.mem_toList.mp htarget) ?_⟩
      exact hst.mono (List.subset_cons_self _ _)
    · obtain ⟨hn, s', hs', hst⟩ := ihrest ht
      exact ⟨hn, s', List.mem_cons_of_mem _ hs',
        hst.mono (List.Subset.trans (List.subset_cons_self _ _) hinner.seen_subset)⟩
  | @pass s ss inner passed seen between seen' hname hinner _ ihinner ihrest =>
    rcases List.mem_append.mp ht with ht | ht
    · obtain ⟨hn, b, hb, hst⟩ := ihinner ht
      exact ⟨hn, s, List.mem_cons_self, .branch hb hst⟩
    · rcases List.mem_cons.mp ht with rfl | ht
      · exact ⟨hname, t, List.mem_cons_self, .here t⟩
      · obtain ⟨hn, s', hs', hst⟩ := ihrest ht
        exact ⟨hn, s', List.mem_cons_of_mem _ hs', hst.mono hinner.seen_subset⟩

/-- What stands in a schema without following references: itself and the branches in it. -/
inductive Within : Schema → Schema → Prop
  | here (s : Schema) : Within s s
  | branch {s b t : Schema} (hb : b ∈ s.allOf) (ht : Within b t) : Within s t

/-- Everything in a schema was passed, and its references are among the seen names. -/
def Covered (c : Context) (passed : List Schema) (seen : List String) (s : Schema) : Prop :=
  ∀ t, Within s t →
    (c.refName? t = none → t ∈ passed) ∧ ∀ name, c.refName? t = some name → name ∈ seen

theorem Covered.mono {passed passed' : List Schema} {seen seen' : List String} {s : Schema}
    (h : Covered c passed seen s) (hp : passed ⊆ passed') (hs : seen ⊆ seen') :
    Covered c passed' seen' s :=
  fun t ht => ⟨fun hn => hp ((h t ht).1 hn), fun name hn => hs ((h t ht).2 name hn)⟩

theorem allOf_of_refName? {s : Schema} {name : String} (h : c.refName? s = some name) :
    s.allOf = [] := by
  rcases s with ⟨a, shape⟩
  cases shape with
  | reference => rfl
  | _ => exact absurd h (by simp [Context.refName?, Schema.refName?])

theorem covered_of_refName? {passed : List Schema} {seen : List String} {s : Schema} {name : String}
    (hn : c.refName? s = some name) (hseen : name ∈ seen) : Covered c passed seen s := by
  intro t ht
  cases ht with
  | here => simp [hn, hseen]
  | branch hb _ => simp [allOf_of_refName? hn] at hb

/-- At the end of a tour the schemas that it started from are covered, and so is the schema of each
name that was first seen on it. -/
theorem Tour.covered {ss passed : List Schema} {seen seen' : List String}
    (h : Tour c ss seen passed seen') :
    (∀ s ∈ ss, Covered c passed seen' s) ∧
      ∀ name ∈ seen', name ∉ seen → ∀ s, c.schema? name = some s → Covered c passed seen' s := by
  induction h with
  | done => exact ⟨by simp, fun name hmem hnot => absurd hmem hnot⟩
  | skip hn hseen hrest ih =>
    refine ⟨fun s hs => ?_, ih.2⟩
    rcases List.mem_cons.mp hs with rfl | hs
    · exact covered_of_refName? hn (hrest.seen_subset hseen)
    · exact ih.1 s hs
  | @follow first ss inner passed name seen between seen' hn hseen hinner hrest ihinner ihrest =>
    have hleft := List.subset_append_left inner passed
    have hright := List.subset_append_right inner passed
    refine ⟨fun s hs => ?_, fun name' hmem hnot s hs => ?_⟩
    · rcases List.mem_cons.mp hs with rfl | hs
      · exact covered_of_refName? hn (hrest.seen_subset (hinner.seen_subset List.mem_cons_self))
      · exact (ihrest.1 s hs).mono hright (List.Subset.refl _)
    -- A name that is new at the end was met in the rest, inside the named schema, or is the name.
    · by_cases hbetween : name' ∈ between
      · have hcovered : Covered c inner between s := by
          by_cases hname : name' = name
          · exact ihinner.1 s (by rw [← hname, hs]; simp)
          · exact ihinner.2 name' hbetween (by simp [hname, hnot]) s hs
        exact hcovered.mono hleft hrest.seen_subset
      · exact (ihrest.2 name' hmem hbetween s hs).mono hright (List.Subset.refl _)
  | @pass first ss inner passed seen between seen' hn hinner hrest ihinner ihrest =>
    have hleft := List.subset_append_left inner (first :: passed)
    have hright : passed ⊆ inner ++ first :: passed :=
      List.Subset.trans (List.subset_cons_self _ _) (List.subset_append_right _ _)
    refine ⟨fun s hs => ?_, fun name' hmem hnot s hs => ?_⟩
    · rcases List.mem_cons.mp hs with rfl | hs
      · intro t ht
        cases ht with
        | here => simp [hn]
        | branch hb ht => exact (ihinner.1 _ hb).mono hleft hrest.seen_subset t ht
      · exact (ihrest.1 s hs).mono hright (List.Subset.refl _)
    · by_cases hbetween : name' ∈ between
      · exact (ihinner.2 name' hbetween hnot s hs).mono hleft hrest.seen_subset
      · exact (ihrest.2 name' hmem hbetween s hs).mono hright (List.Subset.refl _)

/-- A tour passes the schemas that are reached over names not seen before, references apart. -/
theorem Tour.mem_passed_iff {ss passed : List Schema} {seen seen' : List String}
    (h : Tour c ss seen passed seen') {t : Schema} :
    t ∈ passed ↔ c.refName? t = none ∧ ∃ s ∈ ss, Reaches c seen s t := by
  constructor
  · exact h.exists_reaches
  · rintro ⟨hn, s, hs, hst⟩
    obtain ⟨hstart, hnamed⟩ := h.covered
    have hcovered := hstart s hs
    have hend : Covered c passed seen' t := by
      clear hs hn
      induction hst with
      | here s => exact hcovered
      | branch hb _ ih => exact ih fun t ht => hcovered t (.branch hb ht)
      | named hname hfree hs _ ih =>
        exact ih (hnamed _ ((hcovered _ (.here _)).2 _ hname) hfree _ hs)
    exact (hend t (.here t)).1 hn

/-! ## Collecting takes a tour -/

/-- The number of named schemas whose names were not seen. -/
def unseen (c : Context) (seen : List String) : Nat :=
  ((Entries.keys c.schemas).toFinset \ seen.toFinset).card

theorem unseen_le {seen seen' : List String} (h : seen ⊆ seen') :
    unseen c seen' ≤ unseen c seen := by
  apply Finset.card_le_card
  intro name hname
  rw [Finset.mem_sdiff, List.mem_toFinset, List.mem_toFinset] at hname ⊢
  exact ⟨hname.1, fun hmem => hname.2 (h hmem)⟩

theorem unseen_cons_lt {name : String} {s : Schema} {seen : List String}
    (hs : c.schema? name = some s) (hseen : name ∉ seen) :
    unseen c (name :: seen) < unseen c seen := by
  refine Finset.card_lt_card ⟨?_, fun hsub => ?_⟩
  · intro other hother
    rw [Finset.mem_sdiff, List.mem_toFinset, List.mem_toFinset] at hother ⊢
    exact ⟨hother.1, fun hmem => hother.2 (List.mem_cons_of_mem _ hmem)⟩
  · have hname : name ∈ (Entries.keys c.schemas).toFinset \ seen.toFinset := by
      rw [Finset.mem_sdiff, List.mem_toFinset, List.mem_toFinset]
      exact ⟨Entries.mem_keys_of_lookup? hs, hseen⟩
    have hmem := hsub hname
    rw [Finset.mem_sdiff, List.mem_toFinset, List.mem_toFinset] at hmem
    exact hmem.2 List.mem_cons_self

theorem unseen_le_length (c : Context) (seen : List String) : unseen c seen ≤ c.schemas.length := by
  calc unseen c seen ≤ (Entries.keys c.schemas).toFinset.card :=
        Finset.card_le_card Finset.sdiff_subset
    _ ≤ (Entries.keys c.schemas).length := List.toFinset_card_le _
    _ = c.schemas.length := List.length_map _

/-- What following a name does: nothing when it was seen, and otherwise a tour through its
schema. -/
def Followed (c : Context) (name : String) (seen : List String) (passed : List Schema)
    (seen' : List String) : Prop :=
  name ∈ seen ∧ passed = [] ∧ seen' = seen ∨
    name ∉ seen ∧ Tour c (c.schema? name).toList (name :: seen) passed seen'

theorem Followed.tour {s : Schema} {name : String} {seen seen' : List String}
    {passed : List Schema} (h : Followed c name seen passed seen') (hn : c.refName? s = some name) :
    Tour c [s] seen passed seen' := by
  rcases h with ⟨hseen, rfl, rfl⟩ | ⟨hseen, htour⟩
  · exact .skip hn hseen .done
  · simpa using Tour.follow hn hseen htour .done

/-- Following names takes tours as long as no more than `bound` named schemas are unseen. -/
def Follows (c : Context) (follow : String → Walk → Walk) (bound : Nat) : Prop :=
  ∀ name seen, unseen c seen ≤ bound → ∃ passed seen', Followed c name seen passed seen' ∧
    ∀ ms, follow name ⟨ms, seen⟩ = ⟨passed.foldl addOwn ms, seen'⟩

variable {follow : String → Walk → Walk} {bound : Nat}

mutual

theorem exists_tour_collect (h : Follows c follow bound) :
    (s : Schema) → (seen : List String) → unseen c seen ≤ bound →
      ∃ passed seen', Tour c [s] seen passed seen' ∧
        ∀ ms, collect c follow s ⟨ms, seen⟩ = ⟨passed.foldl addOwn ms, seen'⟩
  | ⟨a, shape⟩, seen, hseen => by
    cases shape with
    | composed allOf oneOf anyOf ps rs =>
      obtain ⟨inner, seen', htour, hcollect⟩ := exists_tour_collectAll h allOf seen hseen
      refine ⟨_, seen', .pass rfl htour .done, fun ms => ?_⟩
      rw [collect, hcollect, List.foldl_append]
      rfl
    | reference target =>
      cases hn : c.refName? ⟨a, .reference target⟩ with
      | some name =>
        obtain ⟨passed, seen', hfollowed, hfollow⟩ := h name seen hseen
        refine ⟨passed, seen', hfollowed.tour hn, fun ms => ?_⟩
        rw [collect, hn, ← hfollow]
        simp
      | none =>
        refine ⟨_, seen, .pass hn .done .done, fun ms => ?_⟩
        rw [collect, hn]
        · rfl
        · simp
    | _ =>
      refine ⟨_, seen, .pass rfl .done .done, fun ms => ?_⟩
      rw [collect]
      · rfl
      · simp

theorem exists_tour_collectAll (h : Follows c follow bound) :
    (ss : List Schema) → (seen : List String) → unseen c seen ≤ bound →
      ∃ passed seen', Tour c ss seen passed seen' ∧
        ∀ ms, collectAll c follow ss ⟨ms, seen⟩ = ⟨passed.foldl addOwn ms, seen'⟩
  | [], seen, _ => ⟨[], seen, .done, fun _ => by rw [collectAll]; rfl⟩
  | s :: ss, seen, hseen => by
    obtain ⟨inner, between, htour, hcollect⟩ := exists_tour_collect h s seen hseen
    obtain ⟨passed, seen', htour', hcollect'⟩ := exists_tour_collectAll h ss between
      ((unseen_le htour.seen_subset).trans hseen)
    refine ⟨inner ++ passed, seen', htour.append htour', fun ms => ?_⟩
    rw [collectAll, hcollect, hcollect', List.foldl_append]

end

/-- The bound on nested names is not met as long as it exceeds the number of unseen ones. -/
theorem follows_reach (c : Context) (bound : Nat) : Follows c (reach c (bound + 1)) bound := by
  induction bound with
  | zero =>
    intro name seen hbound
    by_cases hseen : name ∈ seen
    · refine ⟨[], seen, .inl ⟨hseen, rfl, rfl⟩, fun ms => ?_⟩
      rw [reach, if_pos (List.contains_iff_mem.mpr hseen)]
      rfl
    · have hnone : c.schema? name = none := by
        rw [Option.eq_none_iff_forall_ne_some]
        intro s hs
        exact absurd (unseen_cons_lt hs hseen) (by omega)
      refine ⟨[], name :: seen, .inr ⟨hseen, ?_⟩, fun ms => ?_⟩
      · rw [hnone]
        exact .done
      · rw [reach, if_neg (fun h => hseen (List.contains_iff_mem.mp h)), hnone]
        rfl
  | succ bound ih =>
    intro name seen hbound
    by_cases hseen : name ∈ seen
    · refine ⟨[], seen, .inl ⟨hseen, rfl, rfl⟩, fun ms => ?_⟩
      rw [reach, if_pos (List.contains_iff_mem.mpr hseen)]
      rfl
    · cases hs : c.schema? name with
      | none =>
        refine ⟨[], name :: seen, .inr ⟨hseen, ?_⟩, fun ms => ?_⟩
        · rw [hs]
          exact .done
        · rw [reach, if_neg (fun h => hseen (List.contains_iff_mem.mp h)), hs]
          rfl
      | some s =>
        have hless := unseen_cons_lt hs hseen
        obtain ⟨passed, seen', htour, hcollect⟩ :=
          exists_tour_collect ih s (name :: seen) (by omega)
        refine ⟨passed, seen', .inr ⟨hseen, ?_⟩, fun ms => ?_⟩
        · rw [hs]
          exact htour
        · rw [reach, if_neg (fun h => hseen (List.contains_iff_mem.mp h)), hs]
          exact hcollect ms

/-- Adding what is reached from a branch takes a tour that starts at the branch and has seen the
name of the schema itself. -/
theorem exists_tour (c : Context) (self : String) (branch : Schema) :
    ∃ passed seen, Tour c [branch] [self] passed seen ∧
      ∀ ms, addReached c self branch ms = passed.foldl addOwn ms := by
  obtain ⟨passed, seen, htour, hcollect⟩ := exists_tour_collect
    (follows_reach c c.schemas.length) branch [self] (unseen_le_length c [self])
  exact ⟨passed, seen, htour, fun ms => by rw [addReached, hcollect]⟩

end Members
end ApiResolution
