import ApiResolution.Model.Hierarchy
import ApiResolution.Proofs.Entries
import Mathlib.Data.List.Perm.Subperm

/-!
The chain of parents of a model. `Lineage` says that parent links lead from a model to an ancestor
over some models, none of them twice; there is at most one such chain between two models
(`Lineage.unique`). The bounded walk that links models finds along it exactly the ancestors up to
the first one with a discriminator (`mem_ancestors_iff`), whatever loops the links have, because no
chain without repetition is longer than the map. `mem_children_link_iff` says the same of the
children that linking gives to each model.
-/

namespace ApiResolution
namespace ModelMap

/-- The parent that a model of the map names. -/
def parentOf? (models : ModelMap) (name : String) : Option String :=
  (Entries.lookup? name models).bind (·.parent)

/-- The discriminator of a model of the map. -/
def discriminatorOf? (models : ModelMap) (name : String) : Option Discriminator :=
  (Entries.lookup? name models).bind (·.discriminator)

/-- Parent links lead from the model `name` over the models `between`, the nearest one first, to the
model `top`. -/
inductive Climb (models : ModelMap) : String → List String → String → Prop
  | direct {name top : String} (link : parentOf? models name = some top)
      (known : top ∈ Entries.keys models) : Climb models name [] top
  | step {name next top : String} {between : List String}
      (link : parentOf? models name = some next) (rest : Climb models next between top) :
      Climb models name (next :: between) top

/-- The chain of parents from a model to a proper ancestor, cut at the first repeated name. -/
structure Lineage (models : ModelMap) (name : String) (between : List String) (top : String) :
    Prop where
  climb : Climb models name between top
  nodup : (name :: (between ++ [top])).Nodup

theorem mem_keys_of_parentOf? {models : ModelMap} {name next : String}
    (h : parentOf? models name = some next) : name ∈ Entries.keys models := by
  obtain ⟨m, hm, -⟩ := Option.bind_eq_some_iff.mp h
  exact Entries.mem_keys_of_lookup? hm

theorem Climb.source_mem {models : ModelMap} {name top : String} {between : List String}
    (h : Climb models name between top) : name ∈ Entries.keys models := by
  cases h with
  | direct link _ => exact mem_keys_of_parentOf? link
  | step link _ => exact mem_keys_of_parentOf? link

theorem Climb.mem_keys {models : ModelMap} {name top : String} {between : List String}
    (h : Climb models name between top) : ∀ b ∈ between ++ [top], b ∈ Entries.keys models := by
  induction h with
  | direct _ known =>
    intro b hb
    rw [List.nil_append, List.mem_singleton] at hb
    exact hb ▸ known
  | step _ rest ih =>
    intro b hb
    rw [List.cons_append] at hb
    rcases List.mem_cons.mp hb with rfl | hb
    · exact rest.source_mem
    · exact ih b hb

theorem Climb.congr {models others : ModelMap} (hk : Entries.keys models = Entries.keys others)
    (hp : ∀ name, parentOf? models name = parentOf? others name) {name top : String}
    {between : List String} (h : Climb models name between top) :
    Climb others name between top := by
  induction h with
  | direct link known => exact .direct (hp _ ▸ link) (hk ▸ known)
  | step link _ ih => exact .step (hp _ ▸ link) ih

/-- Between two models there is at most one chain without repetition. -/
theorem Climb.unique {models : ModelMap} {name top : String} {between others : List String}
    (h : Climb models name between top) (hn : (between ++ [top]).Nodup)
    (h' : Climb models name others top) (hn' : (others ++ [top]).Nodup) : between = others := by
  induction h generalizing others with
  | direct link _ =>
    cases h' with
    | direct _ _ => rfl
    | step link' _ =>
      obtain rfl := Option.some.inj (link.symm.trans link')
      simp at hn'
  | step link rest ih =>
    cases h' with
    | direct link' _ =>
      obtain rfl := Option.some.inj (link.symm.trans link')
      simp at hn
    | step link' rest' =>
      obtain rfl := Option.some.inj (link.symm.trans link')
      rw [List.cons_append, List.nodup_cons] at hn hn'
      rw [ih hn.2 rest' hn'.2]

theorem Lineage.unique {models : ModelMap} {name top : String} {between others : List String}
    (h : Lineage models name between top) (h' : Lineage models name others top) :
    between = others :=
  h.climb.unique (List.nodup_cons.mp h.nodup).2 h'.climb (List.nodup_cons.mp h'.nodup).2

/-! ## The bounded walk -/

theorem ancestorsFrom_sound {models : ModelMap} {a : Model} (rest : Nat) (visited : List String)
    (name : String) (h : a ∈ ancestorsFrom models rest visited (parentOf? models name)) :
    ∃ between top, Climb models name between top ∧ Entries.lookup? top models = some a ∧
      (between ++ [top]).Nodup ∧ (∀ b ∈ between ++ [top], b ∉ visited) ∧
      ∀ b ∈ between, discriminatorOf? models b = none := by
  induction rest generalizing visited name with
  | zero => simp [ancestorsFrom] at h
  | succ rest ih =>
    cases hp : parentOf? models name with
    | none => simp [ancestorsFrom, hp] at h
    | some next =>
      cases hm : Entries.lookup? next models with
      | none => simp [ancestorsFrom, hp, hm] at h
      | some m =>
        have hk : next ∈ Entries.keys models := Entries.mem_keys_of_lookup? hm
        have hnext : parentOf? models next = m.parent := by simp [parentOf?, hm]
        rw [hp, ancestorsFrom, hm] at h
        by_cases hv : next ∈ visited
        · simp [hv] at h
        · have here : a = m → ∃ between top, Climb models name between top ∧
              Entries.lookup? top models = some a ∧ (between ++ [top]).Nodup ∧
              (∀ b ∈ between ++ [top], b ∉ visited) ∧
              ∀ b ∈ between, discriminatorOf? models b = none := by
            rintro rfl
            exact ⟨[], next, .direct hp hk, hm, by simp, by simpa using hv, by simp⟩
          cases hd : m.discriminator with
          | some d =>
            simp only [List.contains_eq_mem, hv, decide_false, Bool.false_eq_true, if_false, hd,
              Option.isSome_some, if_true, List.mem_singleton] at h
            exact here h
          | none =>
            simp only [List.contains_eq_mem, hv, decide_false, Bool.false_eq_true, if_false, hd,
              Option.isSome_none, List.mem_cons, ← hnext] at h
            rcases h with h | h
            · exact here h
            · obtain ⟨between, top, hc, ha, hn, hf, hu⟩ := ih (next :: visited) next h
              refine ⟨next :: between, top, .step hp hc, ha, ?_, ?_, ?_⟩
              · rw [List.cons_append, List.nodup_cons]
                exact ⟨fun hin => hf next hin List.mem_cons_self, hn⟩
              · intro b hb
                rw [List.cons_append] at hb
                rcases List.mem_cons.mp hb with rfl | hb
                · exact hv
                · exact fun hin => hf b hb (List.mem_cons_of_mem _ hin)
              · intro b hb
                rcases List.mem_cons.mp hb with rfl | hb
                · simp [discriminatorOf?, hm, hd]
                · exact hu b hb

theorem ancestorsFrom_complete {models : ModelMap} {a : Model} {name top : String}
    {between : List String} (hc : Climb models name between top)
    (ha : Entries.lookup? top models = some a) (rest : Nat) (visited : List String)
    (hr : between.length < rest) (hn : (between ++ [top]).Nodup)
    (hf : ∀ b ∈ between ++ [top], b ∉ visited)
    (hu : ∀ b ∈ between, discriminatorOf? models b = none) :
    a ∈ ancestorsFrom models rest visited (parentOf? models name) := by
  induction hc generalizing rest visited with
  | direct link _ =>
    obtain ⟨rest, rfl⟩ : ∃ k, rest = k + 1 := ⟨rest - 1, by omega⟩
    have hv := hf _ (List.mem_append_right _ List.mem_cons_self)
    rw [link, ancestorsFrom, ha]
    simp only [List.contains_eq_mem, hv, decide_false, Bool.false_eq_true, if_false]
    split <;> simp
  | @step name next top between link climb ih =>
    obtain ⟨rest, rfl⟩ : ∃ k, rest = k + 1 := ⟨rest - 1, by omega⟩
    obtain ⟨m, hm⟩ := Entries.exists_lookup?_of_mem_keys climb.source_mem
    have hnext : parentOf? models next = m.parent := by simp [parentOf?, hm]
    have hv : next ∉ visited := hf next List.mem_cons_self
    have hd : m.discriminator = none := by
      simpa [discriminatorOf?, hm] using hu next List.mem_cons_self
    rw [List.cons_append, List.nodup_cons] at hn
    rw [link, ancestorsFrom, hm]
    simp only [List.contains_eq_mem, hv, decide_false, Bool.false_eq_true, if_false, hd,
      Option.isSome_none, ← hnext]
    refine List.mem_cons_of_mem _ (ih ha rest (next :: visited) ?_ hn.2 ?_ ?_)
    · rw [List.length_cons] at hr
      omega
    · intro b hb hin
      rcases List.mem_cons.mp hin with rfl | hin
      · exact hn.1 hb
      · exact hf b (List.mem_cons_of_mem _ hb) hin
    · exact fun b hb => hu b (List.mem_cons_of_mem _ hb)

/-- A chain without repetition is no longer than the map. -/
theorem Lineage.length_le {models : ModelMap} {name top : String} {between : List String}
    (h : Lineage models name between top) : between.length + 1 ≤ models.length := by
  have hn := (List.nodup_cons.mp h.nodup).2
  have hs : between ++ [top] ⊆ Entries.keys models := fun b hb => h.climb.mem_keys b hb
  have hl := (hn.subperm hs).length_le
  simpa [Entries.keys] using hl

/-- The ancestors that a model is a child of are those on the way to which no model has a
discriminator. -/
theorem mem_ancestors_iff {models : ModelMap} {name : String} {m a : Model}
    (hm : Entries.lookup? name models = some m) :
    a ∈ ancestors models name m ↔ ∃ between top, Lineage models name between top ∧
      Entries.lookup? top models = some a ∧ ∀ b ∈ between, discriminatorOf? models b = none := by
  have hp : parentOf? models name = m.parent := by simp [parentOf?, hm]
  rw [ancestors, ← hp]
  constructor
  · intro h
    obtain ⟨between, top, hc, ha, hn, hf, hu⟩ := ancestorsFrom_sound _ _ _ h
    refine ⟨between, top, ⟨hc, ?_⟩, ha, hu⟩
    rw [List.nodup_cons]
    exact ⟨fun hin => hf name hin List.mem_cons_self, hn⟩
  · rintro ⟨between, top, hl, ha, hu⟩
    have hlen := hl.length_le
    have hn := List.nodup_cons.mp hl.nodup
    refine ancestorsFrom_complete hl.climb ha _ _ (by omega) hn.2 ?_ hu
    intro b hb hin
    rw [List.mem_singleton] at hin
    exact hn.1 (hin ▸ hb)

end ModelMap

/-! ## Lists of distinct texts -/

theorem mem_insertText {s t : String} {ss : List String} :
    t ∈ insertText s ss ↔ t = s ∨ t ∈ ss := by
  unfold insertText
  split
  · next h =>
    rw [List.contains_iff_mem] at h
    exact ⟨Or.inr, fun ht => ht.elim (fun he => he ▸ h) id⟩
  · rw [List.mem_append, List.mem_singleton, or_comm]

theorem mem_insertTexts {t : String} {more ss : List String} :
    t ∈ insertTexts more ss ↔ t ∈ more ∨ t ∈ ss := by
  unfold insertTexts
  induction more generalizing ss with
  | nil => simp
  | cons s more ih =>
    rw [List.foldl_cons, ih, mem_insertText, List.mem_cons]
    grind

namespace ModelMap

/-! ## Registering children -/

theorem lookup?_foldl_addChild (regs : List (String × String)) (models : ModelMap) (q : String) :
    Entries.lookup? q (regs.foldl addChild models) = (Entries.lookup? q models).map fun m =>
      { m with
        children := insertTexts ((regs.filter fun r => r.1 == q).map (·.2)) m.children } := by
  induction regs generalizing models with
  | nil => simp [insertTexts]
  | cons r regs ih =>
    rw [List.foldl_cons, ih, addChild, Entries.lookup?_modify]
    by_cases h : q = r.1
    · subst h
      simp [insertTexts, Function.comp_def]
    · have hne : (r.1 == q) = false := by simpa using Ne.symm h
      simp [h, hne]

theorem mem_registrations_iff {models : ModelMap} (hn : (Entries.keys models).Nodup)
    (hname : ∀ name m, Entries.lookup? name models = some m → m.name = name) {top child : String} :
    (top, child) ∈ registrations models ↔ ∃ between, Lineage models child between top ∧
      ∀ b ∈ between, discriminatorOf? models b = none := by
  constructor
  · intro h
    simp only [registrations, List.mem_flatMap, List.mem_map, Prod.mk.injEq] at h
    obtain ⟨⟨name, m⟩, hm, a, ha, hat, rfl⟩ := h
    obtain ⟨between, t, hl, hta, hu⟩ := (mem_ancestors_iff (Entries.lookup?_of_mem hn hm)).mp ha
    obtain rfl : t = top := (hname t a hta).symm.trans hat
    exact ⟨between, hl, hu⟩
  · rintro ⟨between, hl, hu⟩
    obtain ⟨m, hm⟩ := Entries.exists_lookup?_of_mem_keys hl.climb.source_mem
    obtain ⟨a, ha⟩ := Entries.exists_lookup?_of_mem_keys
      (hl.climb.mem_keys top (List.mem_append_right _ List.mem_cons_self))
    simp only [registrations, List.mem_flatMap, List.mem_map, Prod.mk.injEq]
    exact ⟨(child, m), Entries.mem_of_lookup? hm, a,
      (mem_ancestors_iff hm).mpr ⟨between, top, hl, ha, hu⟩, hname top a ha, rfl⟩

theorem value_link (models : ModelMap) :
    (link models).value = (registrations models).foldl addChild (markLinks models) := rfl

/-- What linking makes of a model: its links are marked, its children are registered, and all else
stays. -/
theorem lookup?_link (models : ModelMap) (q : String) :
    Entries.lookup? q (link models).value = (Entries.lookup? q models).map fun m =>
      { m with
        parentModel := m.parent.filter fun p => Entries.contains p models
        interfaceModels := m.interfaces.filter fun i => Entries.contains i models
        children := insertTexts (((registrations models).filter fun r => r.1 == q).map (·.2))
          m.children } := by
  rw [value_link, lookup?_foldl_addChild, markLinks, Entries.lookup?_mapValues, Option.map_map]
  rfl

theorem keys_link (models : ModelMap) : Entries.keys (link models).value = Entries.keys models := by
  rw [value_link]
  exact (Entries.keys_foldl_modify (fun r : String × String => r.1)
    (fun r (m : Model) => { m with children := insertText r.2 m.children }) _ _).trans
      (Entries.keys_mapValues _ _)

/-- After linking, a model has for children those models from which it is reached over models
without a discriminator. -/
theorem mem_children_link_iff {models : ModelMap} (hn : (Entries.keys models).Nodup)
    (hname : ∀ name m, Entries.lookup? name models = some m → m.name = name)
    (hchildren : ∀ name m, Entries.lookup? name models = some m → m.children = [])
    {top child : String} {p : Model} (hp : Entries.lookup? top (link models).value = some p) :
    child ∈ p.children ↔ ∃ between, Lineage models child between top ∧
      ∀ b ∈ between, discriminatorOf? models b = none := by
  rw [← mem_registrations_iff hn hname]
  rw [lookup?_link] at hp
  obtain ⟨m, hm, rfl⟩ := Option.map_eq_some_iff.mp hp
  rw [mem_insertTexts, hchildren top m hm]
  simp

end ModelMap
end ApiResolution
