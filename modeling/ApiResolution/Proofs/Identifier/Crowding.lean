import ApiResolution.Proofs.Identifier.NextName
import ApiResolution.Proofs.Pointwise
import Mathlib.Data.Finset.Card
import Mathlib.Data.Finset.Dedup
import Mathlib.Data.List.Dedup

/-!
The names that a search for free names gives, told from the names that it starts at. Each of these
leads, from one name to the next through names that are given, to a name of its own. So a name is
given exactly if the names that are started at crowd it (`mem_given_iff_crowded`): as many of them
as there are names in some run lie in that run, which leads nowhere but to the name.
-/

namespace ApiResolution
namespace Identifier

/-- A name is reached from another one by going to the next name, each time from a name of a
list. -/
def Reached (names : List String) (source target : String) : Prop :=
  ∃ k, target = nextName^[k] source ∧ ∀ j < k, nextName^[j] source ∈ names

variable {names : List String} {source middle target : String}

theorem Reached.refl (names : List String) (name : String) : Reached names name name :=
  ⟨0, rfl, fun j hj => absurd hj (Nat.not_lt_zero j)⟩

theorem Reached.mono {more : List String} (hsub : names ⊆ more) (h : Reached names source target) :
    Reached more source target := by
  obtain ⟨k, htarget, hnames⟩ := h
  exact ⟨k, htarget, fun j hj => hsub (hnames j hj)⟩

theorem FirstFree.reached {taken : String → Prop} {s free : String} (h : FirstFree taken s free)
    (hnames : ∀ n, taken n → n ∈ names) : Reached names s free := by
  obtain ⟨k, hfree, -, hbefore⟩ := h
  exact ⟨k, hfree, fun j hj => hnames _ (hbefore j hj)⟩

/-- The first step on the way to another name. -/
theorem reached_iff_of_ne (hne : source ≠ target) :
    Reached names source target ↔ source ∈ names ∧ Reached names (nextName source) target := by
  constructor
  · rintro ⟨k, htarget, hnames⟩
    cases k with
    | zero => exact absurd htarget.symm hne
    | succ k =>
      exact ⟨hnames 0 (Nat.succ_pos k), k, htarget, fun j hj => hnames (j + 1) (Nat.succ_lt_succ hj)⟩
  · rintro ⟨hsource, k, htarget, hnames⟩
    refine ⟨k + 1, htarget, fun j hj => ?_⟩
    cases j with
    | zero => exact hsource
    | succ j => exact hnames j (Nat.lt_of_succ_lt_succ hj)

theorem Reached.mem_source (h : Reached names source target) (htarget : target ∈ names) :
    source ∈ names := by
  by_cases hne : source = target
  · rwa [hne]
  · exact ((reached_iff_of_ne hne).mp h).1

theorem Reached.trans (h : Reached names source middle) (h' : Reached names middle target) :
    Reached names source target := by
  obtain ⟨k, rfl, hnames⟩ := h
  induction k generalizing source with
  | zero => exact h'
  | succ k ih =>
    by_cases hne : source = target
    · rw [hne]
      exact Reached.refl _ _
    · refine (reached_iff_of_ne hne).mpr ⟨hnames 0 (Nat.succ_pos k), ih ?_ h'⟩
      exact fun j hj => hnames (j + 1) (Nat.succ_lt_succ hj)

/-! ## Crowded names -/

/-- Names crowd a name when they hold at least as many members of a run as the run has. In a run
that ends at the name, every other name is followed by its next name. -/
def Crowded (declared : List String) (name : String) : Prop :=
  ∃ run : Finset String, name ∈ run ∧ (∀ n ∈ run, n ≠ name → nextName n ∈ run) ∧
    run.card ≤ declared.countP (· ∈ run)

/-- A list of different names holds each name of a set at most once. -/
theorem countP_mem_le_card {given : List String} (hn : given.Nodup) (run : Finset String) :
    given.countP (· ∈ run) ≤ run.card := by
  rw [List.countP_eq_length_filter, ← List.toFinset_card_of_nodup (hn.filter _)]
  refine Finset.card_le_card fun n hmem => ?_
  simpa using (List.mem_filter.mp (List.mem_toFinset.mp hmem)).2

theorem card_le_countP_mem {given : List String} {run : Finset String}
    (hsub : ∀ n ∈ run, n ∈ given) : run.card ≤ given.countP (· ∈ run) := by
  rw [List.countP_eq_length_filter]
  refine (Finset.card_le_card fun n hmem => ?_).trans (List.toFinset_card_le _)
  exact List.mem_toFinset.mpr (List.mem_filter.mpr ⟨hsub n hmem, by simpa using hmem⟩)

/-- What is reached from a name of a run stays in the run as long as its last name is not passed. -/
theorem Reached.mem_run {run : Finset String} {name : String}
    (hrun : ∀ n ∈ run, n ≠ name → nextName n ∈ run) (hname : name ∉ names)
    (h : Reached names source target) (hsource : source ∈ run) : target ∈ run := by
  obtain ⟨k, rfl, hnames⟩ := h
  induction k generalizing source with
  | zero => exact hsource
  | succ k ih =>
    have hne : source ≠ name := fun heq => hname (heq ▸ hnames 0 (Nat.succ_pos k))
    exact ih (hrun source hsource hne) fun j hj => hnames (j + 1) (Nat.succ_lt_succ hj)

theorem crowded_of_mem {declared : List String} {name : String} (h : name ∈ declared) :
    Crowded declared name := by
  refine ⟨{name}, Finset.mem_singleton_self name, fun n hn hne => ?_, ?_⟩
  · exact absurd (Finset.mem_singleton.mp hn) hne
  · rw [Finset.card_singleton]
    exact List.countP_pos_iff.mpr ⟨name, h, by simp⟩

/-- Let different names be given for declared ones, each reached from its own through given names.
Then a name is given exactly if the declared ones crowd it. -/
theorem mem_given_iff_crowded {declared given : List String} (hn : given.Nodup)
    (h : List.Forall₂ (Reached given) declared given) (name : String) :
    name ∈ given ↔ Crowded declared name := by
  classical
  constructor
  · intro hname
    -- The given names from which the name is reached are a run. What leads to one of them starts in
    -- the run, too, so the run is no larger than what is declared in it.
    refine ⟨given.toFinset.filter (Reached given · name), ?_, ?_, ?_⟩
    · exact Finset.mem_filter.mpr ⟨List.mem_toFinset.mpr hname, Reached.refl _ _⟩
    · intro n hmem hne
      obtain ⟨-, hreach⟩ := Finset.mem_filter.mp hmem
      have hnext := ((reached_iff_of_ne hne).mp hreach).2
      exact Finset.mem_filter.mpr ⟨List.mem_toFinset.mpr (hnext.mem_source hname), hnext⟩
    · refine (card_le_countP_mem fun n hmem => ?_).trans (h.flip.countP_le ?_)
      · exact List.mem_toFinset.mp (Finset.mem_filter.mp hmem).1
      · intro g d _ hdg hg
        obtain ⟨hgiven, hreach⟩ := Finset.mem_filter.mp (of_decide_eq_true hg)
        have hd : Reached given d name := Reached.trans hdg hreach
        exact decide_eq_true
          (Finset.mem_filter.mpr ⟨List.mem_toFinset.mpr (hd.mem_source hname), hd⟩)
  · rintro ⟨run, hname, hrun, hcard⟩
    by_contra hfree
    -- Nothing passes a name that is free, so what is declared in the run is given in the run without
    -- its end, and there is no room for it.
    have hkept : declared.countP (· ∈ run) ≤ given.countP (· ∈ run.erase name) := by
      refine h.countP_le fun d g hg hdg hd => decide_eq_true (Finset.mem_erase.mpr ⟨?_, ?_⟩)
      · exact fun heq => hfree (heq ▸ hg)
      · exact hdg.mem_run hrun hfree (of_decide_eq_true hd)
    have hless := countP_mem_le_card hn (run.erase name)
    rw [Finset.card_erase_of_mem hname] at hless
    have hpos := Finset.card_pos.mpr ⟨name, hname⟩
    omega

end Identifier
end ApiResolution
