import ApiResolution.Model
import ApiResolution.Operation.Responses
import ApiResolution.Security

/-!
The marks of lists. Properties, parameters, responses and security schemes bear a mark of their
place in a list. `Marked` says that the marks of a list tell each element but the last one from the
last one. Setting the marks of a list makes it so whatever they were before (`marked_setMarks`), and
the four kinds of lists are marked in this one way.
-/

namespace ApiResolution

/-- The mark of each element of a list, given in order, tells whether another element follows. -/
def Marked (marks : List Bool) : Prop :=
  ∀ i (h : i < marks.length), marks[i] = decide (i + 1 < marks.length)

instance (marks : List Bool) : Decidable (Marked marks) :=
  inferInstanceAs (Decidable (∀ i (h : i < marks.length), marks[i] = decide (i + 1 < marks.length)))

theorem marked_cons_iff {mark : Bool} {marks : List Bool} :
    Marked (mark :: marks) ↔ mark = decide (marks ≠ []) ∧ Marked marks := by
  constructor
  · intro h
    refine ⟨?_, fun i hi => ?_⟩
    · have hfirst := h 0 (Nat.succ_pos _)
      simpa [List.length_pos_iff] using hfirst
    · have hnext := h (i + 1) (Nat.succ_lt_succ hi)
      simpa using hnext
  · rintro ⟨hfirst, hrest⟩ i hi
    cases i with
    | zero => simpa [List.length_pos_iff] using hfirst
    | succ i =>
      have hnext := hrest i (Nat.lt_of_succ_lt_succ hi)
      simpa using hnext

/-- Where no element is marked, the marks are right only if there is at most one element. -/
theorem marked_replicate_false_iff {n : Nat} : Marked (List.replicate n false) ↔ n ≤ 1 := by
  cases n with
  | zero => exact ⟨fun _ => Nat.zero_le 1, fun _ i hi => absurd hi (Nat.not_lt_zero i)⟩
  | succ n =>
    rw [List.replicate_succ, marked_cons_iff]
    constructor
    · rintro ⟨hfirst, -⟩
      cases n with
      | zero => exact Nat.le_refl 1
      | succ n => exact absurd hfirst (by simp [List.replicate_succ])
    · intro hn
      obtain rfl : n = 0 := by omega
      exact ⟨rfl, fun i hi => absurd hi (Nat.not_lt_zero i)⟩

section SetMarks

variable {α : Type} (set : Bool → α → α)

/-- Sets the mark of each element of a list. -/
def setMarks : List α → List α
  | [] => []
  | [a] => [set false a]
  | a :: b :: as => set true a :: setMarks (b :: as)

variable {set}

theorem marked_setMarks {mark : α → Bool} (h : ∀ more a, mark (set more a) = more) (as : List α) :
    Marked ((setMarks set as).map mark) := by
  induction as using setMarks.induct with
  | case1 => exact fun i hi => absurd hi (Nat.not_lt_zero i)
  | case2 a =>
    rw [setMarks, List.map_singleton, h, marked_cons_iff]
    exact ⟨rfl, fun i hi => absurd hi (Nat.not_lt_zero i)⟩
  | case3 a b as ih =>
    rw [setMarks, List.map_cons, h, marked_cons_iff]
    refine ⟨?_, ih⟩
    cases as <;> rfl

/-- The marks that were there before do not count. -/
theorem setMarks_setMarks (h : ∀ more more' a, set more (set more' a) = set more a) (as : List α) :
    setMarks set (setMarks set as) = setMarks set as := by
  induction as using setMarks.induct with
  | case1 => rfl
  | case2 a => rw [setMarks, setMarks, h]
  | case3 a b as ih =>
    rw [setMarks]
    cases as with
    | nil => rw [setMarks, setMarks, setMarks, h, h]
    | cons b' as =>
      rw [setMarks] at ih ⊢
      rw [setMarks, h, ih]

/-- What does not look at the marks may be done before they are set. -/
theorem setMarks_map {f : α → α} (h : ∀ more a, f (set more a) = set more (f a)) (as : List α) :
    setMarks set (as.map f) = (setMarks set as).map f := by
  induction as using setMarks.induct with
  | case1 => rfl
  | case2 a => rw [List.map_singleton, setMarks, setMarks, List.map_singleton, h]
  | case3 a b as ih =>
    rw [List.map_cons] at ih
    rw [List.map_cons, List.map_cons, setMarks, ih, setMarks, List.map_cons, h]

/-- What does not look at the marks is the same of the marked elements. -/
theorem map_setMarks {β : Type} {f : α → β} (h : ∀ more a, f (set more a) = f a) (as : List α) :
    (setMarks set as).map f = as.map f := by
  induction as using setMarks.induct with
  | case1 => rfl
  | case2 a => rw [setMarks, List.map_singleton, List.map_singleton, h]
  | case3 a b as ih => rw [setMarks, List.map_cons, h, ih, ← List.map_cons]

/-- What is said of elements whatever their marks stays true of them. -/
theorem forall_mem_setMarks {P : α → Prop} (h : ∀ more a, P a → P (set more a)) {as : List α}
    (has : ∀ a ∈ as, P a) : ∀ a ∈ setMarks set as, P a := by
  induction as using setMarks.induct with
  | case1 => exact has
  | case2 a =>
    intro a' ha'
    rw [List.mem_singleton.mp ha']
    exact h _ _ (has a List.mem_cons_self)
  | case3 a b as ih =>
    intro a' ha'
    rcases List.mem_cons.mp ha' with rfl | ha'
    · exact h _ _ (has a List.mem_cons_self)
    · exact ih (fun a ha => has a (List.mem_cons_of_mem _ ha)) a' ha'

end SetMarks

/-! ## The four kinds of lists -/

theorem Property.markHasMore_eq (ps : List Property) :
    markHasMore ps = setMarks (fun more p => { p with hasMore := more }) ps := by
  induction ps using markHasMore.induct with
  | case1 => rfl
  | case2 p => rfl
  | case3 p q ps ih => rw [markHasMore, ih, setMarks]

theorem Parameter.markHasMore_eq (ps : List Parameter) :
    markHasMore ps = setMarks (fun more p => { p with hasMore := more }) ps := by
  induction ps using markHasMore.induct with
  | case1 => rfl
  | case2 p => rfl
  | case3 p q ps ih => rw [markHasMore, ih, setMarks]

theorem Response.markHasMore_eq (rs : List Response) :
    markHasMore rs = setMarks (fun more r => { r with hasMore := more }) rs := by
  induction rs using markHasMore.induct with
  | case1 => rfl
  | case2 r => rfl
  | case3 r q rs ih => rw [markHasMore, ih, setMarks]

theorem SecurityScheme.markHasMore_eq (ss : List SecurityScheme) :
    markHasMore ss = setMarks (fun more s => { s with hasMore := more }) ss := by
  induction ss using markHasMore.induct with
  | case1 => rfl
  | case2 s => rfl
  | case3 s t ss ih => rw [markHasMore, ih, setMarks]

theorem Property.marked_markHasMore (ps : List Property) :
    Marked ((markHasMore ps).map (·.hasMore)) := by
  rw [markHasMore_eq]
  exact marked_setMarks (fun _ _ => rfl) ps

theorem Parameter.marked_markHasMore (ps : List Parameter) :
    Marked ((markHasMore ps).map (·.hasMore)) := by
  rw [markHasMore_eq]
  exact marked_setMarks (fun _ _ => rfl) ps

theorem Response.marked_markHasMore (rs : List Response) :
    Marked ((markHasMore rs).map (·.hasMore)) := by
  rw [markHasMore_eq]
  exact marked_setMarks (fun _ _ => rfl) rs

theorem SecurityScheme.marked_markHasMore (ss : List SecurityScheme) :
    Marked ((markHasMore ss).map (·.hasMore)) := by
  rw [markHasMore_eq]
  exact marked_setMarks (fun _ _ => rfl) ss

/-- What does not look at the marks of parameters is the same of marked ones. -/
theorem Parameter.map_markHasMore {β : Type} {f : Parameter → β}
    (hf : ∀ hasMore p, f { p with hasMore } = f p) (ps : List Parameter) :
    (markHasMore ps).map f = ps.map f := by
  rw [markHasMore_eq, map_setMarks hf]

/-- What is said of properties whatever their marks stays true when they are marked. -/
theorem Property.forall_markHasMore {P : Property → Prop}
    (hP : ∀ hasMore p, P p → P { p with hasMore }) {ps : List Property} (h : ∀ p ∈ ps, P p) :
    ∀ p ∈ markHasMore ps, P p := by
  rw [markHasMore_eq]
  exact forall_mem_setMarks hP h

end ApiResolution
