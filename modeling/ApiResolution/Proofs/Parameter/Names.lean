import ApiResolution.Proofs.Identifier.Crowding

/-!
Different names for the parameters of a list. From left to right, each parameter gets the first name
from its own on that no parameter before it has, and nothing else of it changes
(`getElem?_renameFrom`). The names are then different (`nodup_paramNames_renameFrom`), and a list
whose names are different already stays as it is (`renameFrom_eq_self`). A parameter keeps its name
unless those before it crowd that name (`keeps_paramName_iff`).
-/

namespace ApiResolution
namespace Parameter

theorem length_renameFrom (taken : List String) (ps : List Parameter) :
    (renameFrom taken ps).length = ps.length := by
  induction ps generalizing taken with
  | nil => rfl
  | cons p ps ih => rw [renameFrom, List.length_cons, ih, List.length_cons]

/-- The names that are given are different from each other and from those taken before. -/
theorem nodup_paramNames_renameFrom (taken : List String) (ps : List Parameter) :
    ((renameFrom taken ps).map (·.paramName)).Nodup ∧
      ∀ name ∈ (renameFrom taken ps).map (·.paramName), name ∉ taken := by
  induction ps generalizing taken with
  | nil => exact ⟨List.nodup_nil, by simp [renameFrom]⟩
  | cons p ps ih =>
    have hfree := Identifier.freeFrom_contains_not_mem taken p.paramName
    rw [renameFrom]
    generalize Identifier.freeFrom taken.contains (taken.length + 1) p.paramName = name at hfree ⊢
    obtain ⟨hnodup, hfresh⟩ := ih (name :: taken)
    rw [List.map_cons, List.nodup_cons, List.forall_mem_cons]
    refine ⟨⟨fun hmem => hfresh name hmem List.mem_cons_self, hnodup⟩, hfree, fun n hn hmem => ?_⟩
    exact hfresh n hn (List.mem_cons_of_mem _ hmem)

/-- A parameter gets the first name from its own on that neither is taken before nor given to a
parameter before it. -/
theorem getElem?_renameFrom (taken : List String) {ps : List Parameter} {i : Nat} {p : Parameter}
    (hi : ps[i]? = some p) :
    ∃ name, (renameFrom taken ps)[i]? = some { p with paramName := name } ∧
      Identifier.FirstFree
        (fun n => n ∈ taken ∨ n ∈ ((renameFrom taken ps).take i).map (·.paramName))
        p.paramName name := by
  induction ps generalizing taken i with
  | nil => simp at hi
  | cons first ps ih =>
    rw [renameFrom]
    cases i with
    | zero =>
      obtain rfl : first = p := Option.some.inj hi
      refine ⟨_, rfl, ?_⟩
      refine (Identifier.firstFree_freeFrom
        (Identifier.freeFrom_contains_not_mem taken first.paramName)).congr fun n => ?_
      simp
    | succ i =>
      obtain ⟨name, hname, hfree⟩ := ih _ hi
      refine ⟨name, hname, hfree.congr fun n => ?_⟩
      rw [List.take_succ_cons, List.map_cons, List.mem_cons, List.mem_cons, or_assoc,
        or_left_comm]

/-- Parameters with different names, none of them taken, keep their names. -/
theorem renameFrom_eq_self {taken : List String} {ps : List Parameter}
    (hn : (ps.map (·.paramName)).Nodup) (hfresh : ∀ p ∈ ps, p.paramName ∉ taken) :
    renameFrom taken ps = ps := by
  induction ps generalizing taken with
  | nil => rfl
  | cons p ps ih =>
    rw [List.map_cons, List.nodup_cons] at hn
    rw [List.forall_mem_cons] at hfresh
    rw [renameFrom, Identifier.freeFrom_of_not_mem hfresh.1]
    rw [ih hn.2]
    intro q hq hmem
    rcases List.mem_cons.mp hmem with heq | hmem
    · exact hn.1 (heq ▸ List.mem_map_of_mem hq)
    · exact hfresh.2 q hq hmem

/-- Giving the parameters of a list different names ends for every list. Each parameter stays at its
index and changes at most its name, for the first one from its own on that no parameter before it
has. The names are different afterwards, and the list stays as it is exactly if they were so
before. -/
theorem paramNames_ensureUnique (ps : List Parameter) :
    (ensureUnique ps).length = ps.length ∧
      (∀ i p, ps[i]? = some p →
        ∃ name, (ensureUnique ps)[i]? = some { p with paramName := name } ∧
          Identifier.FirstFree (· ∈ ((ensureUnique ps).take i).map (·.paramName))
            p.paramName name) ∧
      ((ensureUnique ps).map (·.paramName)).Nodup ∧
      (ensureUnique ps = ps ↔ (ps.map (·.paramName)).Nodup) := by
  have hnodup : ((ensureUnique ps).map (·.paramName)).Nodup :=
    (nodup_paramNames_renameFrom [] ps).1
  refine ⟨length_renameFrom [] ps, fun i p hi => ?_, hnodup, fun heq => ?_, fun hn => ?_⟩
  · obtain ⟨name, hname, hfree⟩ := getElem?_renameFrom [] hi
    exact ⟨name, hname, hfree.congr fun n => by simp [ensureUnique]⟩
  · rwa [heq] at hnodup
  · exact renameFrom_eq_self hn fun p _ => List.not_mem_nil

/-- A name with leading zeros and a counter that is full: the first loses its zeros, the second gets
a digit. -/
example :
    (ensureUnique ([ "id007", "id007", "id008", "n18446744073709551615", "n18446744073709551615"].map
      fun name => { baseName := name, paramName := name })).map (·.paramName) =
      ["id007", "id8", "id008", "n18446744073709551615", "n184467440737095516152"] := by
  decide +kernel

/-! ## Parameters that keep their names -/

theorem take_renameFrom (taken : List String) (ps : List Parameter) (i : Nat) :
    (renameFrom taken ps).take i = renameFrom taken (ps.take i) := by
  induction ps generalizing taken i with
  | nil => simp [renameFrom]
  | cons p ps ih =>
    cases i with
    | zero => simp [renameFrom]
    | succ i => rw [renameFrom, List.take_succ_cons, ih, List.take_succ_cons, renameFrom]

/-- Each name that is given is reached from the declared one through names that are taken before or
given. -/
theorem forall₂_reached_renameFrom (taken : List String) (ps : List Parameter) :
    List.Forall₂ (Identifier.Reached (taken ++ (renameFrom taken ps).map (·.paramName)))
      (ps.map (·.paramName)) ((renameFrom taken ps).map (·.paramName)) := by
  induction ps generalizing taken with
  | nil => exact .nil
  | cons p ps ih =>
    rw [renameFrom]
    have hfirst := Identifier.firstFree_freeFrom
      (Identifier.freeFrom_contains_not_mem taken p.paramName)
    generalize Identifier.freeFrom taken.contains (taken.length + 1) p.paramName = name at hfirst ⊢
    refine .cons (hfirst.reached fun n hn => List.mem_append_left _ hn) ?_
    refine (ih (name :: taken)).imp fun d g hreach => hreach.mono fun n hn => ?_
    rw [List.cons_append, List.mem_cons] at hn
    rw [List.map_cons, List.mem_append, List.mem_cons]
    rcases hn with hn | hn
    · exact .inr (.inl hn)
    · exact (List.mem_append.mp hn).imp id .inr

/-- The names that the parameters of a list are given are those that their declared names crowd. -/
theorem mem_paramNames_ensureUnique_iff (ps : List Parameter) (name : String) :
    name ∈ (ensureUnique ps).map (·.paramName) ↔
      Identifier.Crowded (ps.map (·.paramName)) name :=
  Identifier.mem_given_iff_crowded (nodup_paramNames_renameFrom [] ps).1
    (forall₂_reached_renameFrom [] ps) name

/-- A parameter keeps its name exactly if no parameter before it is given that name. -/
theorem getElem?_ensureUnique_eq_iff {ps : List Parameter} {i : Nat} {p : Parameter}
    (hi : ps[i]? = some p) :
    (ensureUnique ps)[i]? = some p ↔
      p.paramName ∉ (ensureUnique (ps.take i)).map (·.paramName) := by
  obtain ⟨name, hname, hfree⟩ := getElem?_renameFrom [] hi
  rw [take_renameFrom] at hfree
  have hfirst : Identifier.FirstFree (· ∈ (ensureUnique (ps.take i)).map (·.paramName))
      p.paramName name := hfree.congr fun n => by simp [ensureUnique]
  obtain ⟨k, hk, hnot, hbefore⟩ := hfirst
  have hkept : (ensureUnique ps)[i]? = some p ↔ name = p.paramName := by
    rw [ensureUnique, hname]
    constructor
    · exact fun h => congrArg (·.paramName) (Option.some.inj h)
    · rintro rfl
      rfl
  rw [hkept]
  constructor
  · rintro rfl
    exact hnot
  · intro hp
    cases k with
    | zero => exact hk
    | succ k => exact absurd (hbefore 0 (Nat.succ_pos k)) hp

/-- A parameter keeps its name exactly if the names of the parameters before it do not crowd that
name, and so no parameter keeps the name of one before it. -/
theorem keeps_paramName_iff {ps : List Parameter} {i : Nat} {p : Parameter}
    (hi : ps[i]? = some p) :
    ((ensureUnique ps)[i]? = some p ↔
        ¬ Identifier.Crowded ((ps.take i).map (·.paramName)) p.paramName) ∧
      ((∃ q ∈ ps.take i, q.paramName = p.paramName) → (ensureUnique ps)[i]? ≠ some p) := by
  have hkeeps : (ensureUnique ps)[i]? = some p ↔
      ¬ Identifier.Crowded ((ps.take i).map (·.paramName)) p.paramName := by
    rw [getElem?_ensureUnique_eq_iff hi, mem_paramNames_ensureUnique_iff]
  refine ⟨hkeeps, fun hearlier hkept => hkeeps.mp hkept (Identifier.crowded_of_mem ?_)⟩
  exact List.mem_map.mpr hearlier

/-- Parameters that have nothing but a name. -/
def named (names : List String) : List Parameter :=
  names.map fun name => { baseName := name, paramName := name }

/-- Three of the names before `id3` lie in the run `id`, `id2`, `id3`, so the first parameter of that
name loses it. -/
theorem loses_paramName_id3 :
    let ps := named ["id", "id2", "id", "id3"]
    ∃ p, ps[3]? = some p ∧ p.paramName = "id3" ∧ (∀ q ∈ ps.take 3, q.paramName ≠ "id3") ∧
      (ensureUnique ps)[3]? ≠ some p := by
  intro ps
  refine ⟨{ baseName := "id3", paramName := "id3" }, rfl, rfl, by decide, fun hkept => ?_⟩
  refine (keeps_paramName_iff rfl).1.mp hkept ⟨{"id", "id2", "id3"}, ?_, ?_, ?_⟩
  · decide
  · decide +kernel
  · decide +kernel

/-- The second `a` takes the name of the only `a2`, which is renamed. -/
theorem paramNames_a_a_a2 :
    (ensureUnique (named ["a", "a", "a2"])).map (·.paramName) = ["a", "a2", "a3"] := by
  decide +kernel

end Parameter
end ApiResolution
