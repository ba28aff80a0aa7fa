import Mathlib.Data.List.Forall2

/-!
Lists and optional values that are related element by element. Related lists have related members,
and functions that agree on related elements have the same values along both lists (`map_eq`). A
traversal that may fail relates its list to what it gives (`mapM_eq_ok_iff`), unless one of its
elements fails (`exists_mapM_eq_error_iff`).
-/

namespace List
namespace Forall₂

variable {α β γ : Type} {R : α → β → Prop} {as : List α} {bs : List β}

theorem exists_of_mem_left (h : Forall₂ R as bs) {a : α} (ha : a ∈ as) : ∃ b ∈ bs, R a b := by
  induction h with
  | nil => simp at ha
  | cons hab _ ih =>
    rcases List.mem_cons.mp ha with rfl | ha
    · exact ⟨_, List.mem_cons_self, hab⟩
    · obtain ⟨b, hb, hab⟩ := ih ha
      exact ⟨b, List.mem_cons_of_mem _ hb, hab⟩

theorem exists_of_mem_right (h : Forall₂ R as bs) {b : β} (hb : b ∈ bs) : ∃ a ∈ as, R a b := by
  have hflip : Forall₂ (fun b a => R a b) bs as := h.flip
  exact hflip.exists_of_mem_left hb

theorem imp_of_mem {S : α → β → Prop} (h : Forall₂ R as bs)
    (hrs : ∀ a b, a ∈ as → R a b → S a b) : Forall₂ S as bs := by
  induction h with
  | nil => exact .nil
  | cons hab _ ih =>
    refine .cons (hrs _ _ List.mem_cons_self hab) (ih fun a b ha => hrs a b ?_)
    exact List.mem_cons_of_mem _ ha

/-- What is related to a list in two parts has two parts. -/
theorem exists_append {as' : List α} (h : Forall₂ R (as ++ as') bs) :
    ∃ cs cs', bs = cs ++ cs' ∧ Forall₂ R as cs ∧ Forall₂ R as' cs' :=
  ⟨_, _, (List.take_append_drop as.length bs).symm,
    (List.forall₂_take_append bs as as' h.flip).flip,
    (List.forall₂_drop_append bs as as' h.flip).flip⟩

/-- Functions that agree on related elements have the same values along related lists. -/
theorem map_eq {f : α → γ} {g : β → γ} (h : Forall₂ R as bs) (hfg : ∀ a b, R a b → f a = g b) :
    as.map f = bs.map g := by
  induction h with
  | nil => rfl
  | cons hab _ ih => rw [List.map_cons, List.map_cons, hfg _ _ hab, ih]

theorem trans {S : β → γ → Prop} {T : α → γ → Prop} {cs : List γ} (h : Forall₂ R as bs)
    (h' : Forall₂ S bs cs) (ht : ∀ a b c, R a b → S b c → T a c) : Forall₂ T as cs := by
  induction h generalizing cs with
  | nil =>
    cases h'
    exact .nil
  | cons hab _ ih =>
    cases h' with
    | cons hbc h' => exact .cons (ht _ _ _ hab hbc) (ih h')

/-- Of related lists, the second has at least as many elements of a kind as the first has elements
whose partners are of that kind. -/
theorem countP_le {p : α → Bool} {q : β → Bool} (h : Forall₂ R as bs)
    (hpq : ∀ a b, b ∈ bs → R a b → p a = true → q b = true) : as.countP p ≤ bs.countP q := by
  induction h with
  | nil => exact Nat.le_refl _
  | cons hab _ ih =>
    have hrest := ih fun a b hb => hpq a b (List.mem_cons_of_mem _ hb)
    have hfirst := hpq _ _ List.mem_cons_self hab
    rw [List.countP_cons, List.countP_cons]
    split
    · next hp =>
      rw [if_pos (hfirst hp)]
      omega
    · omega

end Forall₂

/-! ## Traversals that may fail -/

section

variable {α β ε : Type} {f : α → Except ε β} {as : List α} {bs : List β}

/-- A traversal that does not fail relates each element to what it gives. -/
theorem mapM_eq_ok_iff :
    as.mapM f = .ok bs ↔ List.Forall₂ (fun a b => f a = .ok b) as bs := by
  induction as generalizing bs with
  | nil =>
    rw [List.mapM_nil, List.forall₂_nil_left_iff]
    exact ⟨fun h => (Except.ok.inj h).symm, fun h => congrArg Except.ok h.symm⟩
  | cons a as ih =>
    rw [List.mapM_cons, List.forall₂_cons_left_iff]
    constructor
    · intro h
      cases ha : f a with
      | error e =>
        rw [ha] at h
        exact absurd h (by simp [bind, Except.bind])
      | ok b =>
        cases has : as.mapM f with
        | error e =>
          rw [ha, has] at h
          exact absurd h (by simp [bind, Except.bind])
        | ok bs =>
          rw [ha, has] at h
          exact ⟨b, bs, rfl, ih.mp has, (Except.ok.inj h).symm⟩
    · rintro ⟨b, bs, ha, has, rfl⟩
      rw [ha, ih.mpr has]
      rfl

/-- A traversal fails as one of its elements does. -/
theorem exists_of_mapM_eq_error {e : ε} (h : as.mapM f = .error e) : ∃ a ∈ as, f a = .error e := by
  induction as with
  | nil =>
    rw [List.mapM_nil] at h
    exact absurd h (by simp [pure, Except.pure])
  | cons a as ih =>
    rw [List.mapM_cons] at h
    cases ha : f a with
    | error e' =>
      rw [ha] at h
      obtain rfl : e' = e := Except.error.inj h
      exact ⟨a, List.mem_cons_self, ha⟩
    | ok b =>
      cases has : as.mapM f with
      | error e' =>
        rw [ha, has] at h
        obtain rfl : e' = e := Except.error.inj h
        obtain ⟨a', ha', hf⟩ := ih has
        exact ⟨a', List.mem_cons_of_mem _ ha', hf⟩
      | ok bs =>
        rw [ha, has] at h
        exact absurd h (by simp [bind, Except.bind, pure, Except.pure])

/-- A traversal fails exactly when one of its elements does. -/
theorem exists_mapM_eq_error_iff :
    (∃ e, as.mapM f = .error e) ↔ ∃ a ∈ as, ∃ e, f a = .error e := by
  constructor
  · rintro ⟨e, he⟩
    obtain ⟨a, ha, hf⟩ := exists_of_mapM_eq_error he
    exact ⟨a, ha, e, hf⟩
  · rintro ⟨a, ha, e, hf⟩
    cases hall : as.mapM f with
    | error e' => exact ⟨e', rfl⟩
    | ok bs =>
      obtain ⟨b, -, hb⟩ := (mapM_eq_ok_iff.mp hall).exists_of_mem_left ha
      rw [hf] at hb
      exact absurd hb (by simp)

end

end List

namespace Option.Rel

variable {α β γ δ : Type} {R : α → β → Prop} {S : γ → δ → Prop} {x : Option α} {y : Option β}

theorem imp_of_mem {T : α → β → Prop} (h : Rel R x y) (hrt : ∀ a b, a ∈ x → R a b → T a b) :
    Rel T x y := by
  cases h with
  | none => exact .none
  | some hab => exact .some (hrt _ _ rfl hab)

theorem map {f : α → γ} {g : β → δ} (h : Rel R x y) (hfg : ∀ a b, R a b → S (f a) (g b)) :
    Rel S (x.map f) (y.map g) := by
  cases h with
  | none => exact .none
  | some hab => exact .some (hfg _ _ hab)

theorem filter {p : α → Bool} {q : β → Bool} (h : Rel R x y) (hpq : ∀ a b, R a b → p a = q b) :
    Rel R (x.filter p) (y.filter q) := by
  cases h with
  | none => exact .none
  | some hab =>
    rw [Option.filter_some, Option.filter_some, hpq _ _ hab]
    split
    · exact .some hab
    · exact .none

theorem getD {a : α} {b : β} (h : Rel R x y) (hab : R a b) : R (x.getD a) (y.getD b) := by
  cases h with
  | none => exact hab
  | some h => exact h

end Option.Rel

namespace ApiResolution

/-- Two computations fail alike, or what they give is related. -/
inductive Agree {ε α β : Type} (R : α → β → Prop) : Except ε α → Except ε β → Prop
  | error (e : ε) : Agree R (.error e) (.error e)
  | ok {a : α} {b : β} (h : R a b) : Agree R (.ok a) (.ok b)

namespace Agree

variable {ε ι α β γ δ : Type} {R : α → β → Prop} {S : γ → δ → Prop}

theorem error_iff {x : Except ε α} {y : Except ε β} (h : Agree R x y) (e : ε) :
    x = .error e ↔ y = .error e := by
  cases h with
  | error e' => rw [Except.error.injEq, Except.error.injEq]
  | ok _ => simp

theorem ok_iff {x : Except ε α} {y : Except ε β} (h : Agree R x y) :
    (∃ a, x = .ok a) ↔ ∃ b, y = .ok b := by
  cases h with
  | error e => simp
  | @ok a b _ => exact ⟨fun _ => ⟨b, rfl⟩, fun _ => ⟨a, rfl⟩⟩

theorem imp {R' : α → β → Prop} {x : Except ε α} {y : Except ε β} (h : Agree R x y)
    (hRR' : ∀ a b, R a b → R' a b) : Agree R' x y := by
  cases h with
  | error e => exact .error e
  | ok h => exact .ok (hRR' _ _ h)

theorem map {x : Except ε α} {y : Except ε β} (h : Agree R x y) {f : α → γ} {g : β → δ}
    (hfg : ∀ a b, R a b → S (f a) (g b)) : Agree S (x.map f) (y.map g) := by
  cases h with
  | error e => exact .error e
  | ok h => exact .ok (hfg _ _ h)

theorem bind {x : Except ε α} {y : Except ε β} (h : Agree R x y) {f : α → Except ε γ}
    {g : β → Except ε δ} (hfg : ∀ a b, R a b → Agree S (f a) (g b)) :
    Agree S (x >>= f) (y >>= g) := by
  cases h with
  | error e => exact .error e
  | ok h => exact hfg _ _ h

/-- Traversals agree when they agree on every element. -/
theorem mapM {f : ι → Except ε α} {g : ι → Except ε β} {is : List ι}
    (h : ∀ i ∈ is, Agree R (f i) (g i)) : Agree (List.Forall₂ R) (is.mapM f) (is.mapM g) := by
  induction is with
  | nil => exact .ok .nil
  | cons i is ih =>
    rw [List.mapM_cons, List.mapM_cons]
    have hrest := ih fun j hj => h j (List.mem_cons_of_mem _ hj)
    refine (h i List.mem_cons_self).bind fun a b hab => ?_
    exact hrest.bind fun as bs habs => .ok (.cons hab habs)

end Agree
end ApiResolution
