import ApiResolution.Proofs.Identifier.NextName
import ApiResolution.Property.Enum
import Mathlib.Data.List.Nodup

/-!
The names of enum members. Members are told apart by running through their places: the step at a place
gives every other member of its name another name, by appending the place of that member. What is
appended may lead to the name of a third member. If the step at the place of that one is still to
come, the renamed member moves on; if it is over, nothing tells the two apart but the step at the
place of the renamed member, and that renames the other one. `Clears` says that a member never meets
the latter. The names are different, each kept by the first member that derives it, exactly if all
other members are clear of that (`toldApart_membersOf_iff`).
-/

namespace ApiResolution
namespace EnumValues

/-- A name followed by the place of its member. -/
def placed (place : Nat) (name : String) : String := name ++ "_" ++ toString place

/-- The first place of a list that has the name. -/
def FirstAt (names : List String) (i : Nat) (name : String) : Prop :=
  names[i]? = some name ∧ ∀ k < i, names[k]? ≠ some name

/-- A later place has the name of a first one. -/
structure Repeats (names : List String) (i j : Nat) (name : String) : Prop where
  first : FirstAt names i name
  lt : i < j
  same : names[j]? = some name

/-- The member at place `j` is given a name of its own when the step at place `i` renames it: with its
place at the end the name is no derived one, or it is first derived at a place between `i` and `j`,
and the step there gives the member a name of its own. -/
inductive Clears (names : List String) (j : Nat) : Nat → String → Prop
  | free {i : Nat} {name : String} (h : placed j name ∉ names) : Clears names j i name
  | passed {i k : Nat} {name : String} (hk : FirstAt names k (placed j name)) (hik : i < k)
      (hkj : k < j) (rest : Clears names j k (placed j name)) : Clears names j i name

/-- The names that are given are different, and the first place where a name is derived keeps it. -/
structure ToldApart (derived given : List String) : Prop where
  distinct : given.Nodup
  kept : ∀ i name, FirstAt derived i name → given[i]? = some name

theorem placed_inj_place {i j : Nat} {s t : String} (h : placed i s = placed j t) : i = j := by
  rw [← Identifier.numberOf_endDigits_append s i, ← Identifier.numberOf_endDigits_append t j]
  exact congrArg (fun name => Identifier.numberOf (Identifier.endDigits name)) h

theorem length_lt_placed (i : Nat) (name : String) : name.length < (placed i name).length := by
  rw [placed, String.length_append, String.length_append]
  have hone : "_".length = 1 := rfl
  omega

theorem FirstAt.unique {names : List String} {i k : Nat} {name : String}
    (hi : FirstAt names i name) (hk : FirstAt names k name) : i = k := by
  rcases Nat.lt_trichotomy i k with h | h | h
  · exact absurd hi.1 (hk.2 i h)
  · exact h
  · exact absurd hk.1 (hi.2 k h)

theorem FirstAt.mem {names : List String} {i : Nat} {name : String} (h : FirstAt names i name) :
    name ∈ names :=
  List.mem_of_getElem? h.1

theorem exists_firstAt {names : List String} {j : Nat} {name : String}
    (h : names[j]? = some name) : ∃ i ≤ j, FirstAt names i name := by
  classical
  have hex : ∃ i, names[i]? = some name := ⟨j, h⟩
  exact ⟨Nat.find hex, Nat.find_le h, Nat.find_spec hex, fun _ => Nat.find_min hex⟩

/-- Every place is the first one of its name or repeats it. -/
theorem firstAt_or_repeats {names : List String} {j : Nat} {name : String}
    (h : names[j]? = some name) : FirstAt names j name ∨ ∃ i, Repeats names i j name := by
  obtain ⟨i, hij, hi⟩ := exists_firstAt h
  rcases Nat.eq_or_lt_of_le hij with rfl | hlt
  · exact .inl hi
  · exact .inr ⟨i, hi, hlt, h⟩

/-! ## The run on names -/

/-- What the step at place `i` makes of the names. -/
def nameLike (i : Nat) (names : List String) : List String :=
  names.mapIdx fun j name => if i ≠ j ∧ names[i]? = some name then placed j name else name

/-- The names after the steps at the first `s` places. -/
def namesAfter (names : List String) (s : Nat) : List String :=
  (List.range s).foldl (fun ns i => nameLike i ns) names

theorem getElem?_renameLike (i : Nat) (members : List EnumMember) (j : Nat) :
    (renameLike i members)[j]?.map (·.name) = members[j]?.map fun other =>
      if i ≠ j ∧ members[i]?.map (·.name) = some other.name then placed j other.name
      else other.name := by
  unfold renameLike
  split
  · next hnone => simp [hnone]
  · next m hm =>
    rw [List.getElem?_map, List.getElem?_zipIdx, hm]
    cases members[j]? with
    | none => rfl
    | some other =>
      simp only [Option.map_some, Nat.zero_add, Option.some.injEq, @eq_comm _ m.name]
      by_cases h : i ≠ j ∧ other.name = m.name
      · rw [if_pos h, if_pos h, h.2, placed]
      · rw [if_neg h, if_neg h]

theorem map_name_renameLike (i : Nat) (members : List EnumMember) :
    (renameLike i members).map (·.name) = nameLike i (members.map (·.name)) := by
  refine List.ext_getElem? fun j => ?_
  rw [List.getElem?_map, getElem?_renameLike, nameLike, List.getElem?_mapIdx, List.getElem?_map,
    List.getElem?_map, Option.map_map]
  rfl

theorem map_name_distinguish (members : List EnumMember) :
    (distinguish members).map (·.name) =
      namesAfter (members.map (·.name)) (members.map (·.name)).length := by
  rw [List.length_map, distinguish, namesAfter]
  generalize List.range members.length = places
  induction places generalizing members with
  | nil => rfl
  | cons i places ih => rw [List.foldl_cons, List.foldl_cons, ih, map_name_renameLike]

section Run

variable {names : List String} {s t j k : Nat} {x y : String}

theorem namesAfter_succ (names : List String) (s : Nat) :
    namesAfter names (s + 1) = nameLike s (namesAfter names s) := by
  rw [namesAfter, List.range_succ, List.foldl_append]
  rfl

theorem length_namesAfter (names : List String) (s : Nat) :
    (namesAfter names s).length = names.length := by
  induction s with
  | zero => rfl
  | succ s ih => rw [namesAfter_succ, nameLike, List.length_mapIdx, ih]

/-- A step renames a member that stands at another place and has the same name, and no other. -/
theorem step_cases (h : (namesAfter names s)[j]? = some x) :
    (s ≠ j ∧ (namesAfter names s)[s]? = some x ∧
        (namesAfter names (s + 1))[j]? = some (placed j x)) ∨
      (¬ (s ≠ j ∧ (namesAfter names s)[s]? = some x) ∧
        (namesAfter names (s + 1))[j]? = some x) := by
  rw [namesAfter_succ, nameLike, List.getElem?_mapIdx, h, Option.map_some]
  by_cases hs : s ≠ j ∧ (namesAfter names s)[s]? = some x
  · exact .inl ⟨hs.1, hs.2, by rw [if_pos hs]⟩
  · exact .inr ⟨hs, by rw [if_neg hs]⟩

/-! ## Clear members get names of their own -/

/-- What the name of a repeating member is before the step at place `s`: one whose step is still to
come, or its own for good. -/
inductive Underway (names : List String) (s j : Nat) (x : String) : Prop
  | waiting {k : Nat} (hk : FirstAt names k x) (hsk : s ≤ k) (hkj : k < j)
      (hclear : Clears names j k x)
  | settled {y : String} (hplaced : x = placed j y) (hfree : x ∉ names)

/-- Before the step at place `s` every first member has the name that it derives, and every repeating
one is underway. -/
structure OnCourse (names : List String) (s : Nat) : Prop where
  first : ∀ j x, FirstAt names j x → (namesAfter names s)[j]? = some x
  repeated : ∀ i j name, Repeats names i j name →
    ∃ x, (namesAfter names s)[j]? = some x ∧ Underway names s j x

/-- When the steps at all places before a member's are over, it has the name that it derives and is the
first one that does, or a name that ends in its place and is no derived one. -/
theorem OnCourse.name_cases (h : OnCourse names s) (hjs : j ≤ s)
    (hx : (namesAfter names s)[j]? = some x) :
    FirstAt names j x ∨ ((∃ y, x = placed j y) ∧ x ∉ names) := by
  have hlt : j < names.length := by
    rw [← length_namesAfter names s]
    exact (List.getElem?_eq_some_iff.mp hx).1
  rcases firstAt_or_repeats (List.getElem?_eq_getElem hlt) with hfirst | ⟨i, hrepeats⟩
  · have heq := h.first j _ hfirst
    rw [hx] at heq
    exact .inl (Option.some.inj heq ▸ hfirst)
  · obtain ⟨x', hx', hunderway⟩ := h.repeated i j _ hrepeats
    obtain rfl := Option.some.inj (hx.symm.trans hx')
    cases hunderway with
    | waiting _ hsk hkj _ => exact absurd (Nat.lt_of_le_of_lt hsk hkj) (Nat.not_lt_of_le hjs)
    | settled hplaced hfree => exact .inr ⟨⟨_, hplaced⟩, hfree⟩

theorem OnCourse.step (h : OnCourse names s) : OnCourse names (s + 1) where
  first := by
    intro j x hj
    rcases step_cases (h.first j x hj) with ⟨hne, hs, -⟩ | ⟨-, hkept⟩
    · rcases h.name_cases (Nat.le_refl s) hs with hfirst | ⟨-, hfree⟩
      · exact absurd (hfirst.unique hj) hne
      · exact absurd hj.mem hfree
    · exact hkept
  repeated := by
    intro i j name hrepeats
    obtain ⟨x, hx, hunderway⟩ := h.repeated i j name hrepeats
    cases hunderway with
    | @waiting k hk hsk hkj hclear =>
      rcases step_cases hx with ⟨-, hs, hrenamed⟩ | ⟨hstays, hkept⟩
      · refine ⟨_, hrenamed, ?_⟩
        rcases h.name_cases (Nat.le_refl s) hs with hfirst | ⟨-, hfree⟩
        · obtain rfl := hfirst.unique hk
          cases hclear with
          | free hfree => exact .settled rfl hfree
          | passed hnext hlt hlast hclear => exact .waiting hnext hlt hlast hclear
        · exact absurd hk.mem hfree
      · refine ⟨x, hkept, .waiting hk (Nat.lt_of_le_of_ne hsk ?_) hkj hclear⟩
        rintro rfl
        exact hstays ⟨Nat.ne_of_lt hkj, h.first s x hk⟩
    | settled hplaced hfree =>
      rcases step_cases hx with ⟨hne, hs, -⟩ | ⟨-, hkept⟩
      · rcases h.name_cases (Nat.le_refl s) hs with hfirst | ⟨⟨y, hy⟩, -⟩
        · exact absurd hfirst.mem hfree
        · exact absurd (placed_inj_place (hy.symm.trans hplaced)) hne
      · exact ⟨x, hkept, .settled hplaced hfree⟩

/-- The run stays on course if all repeating members are clear. -/
theorem onCourse_of_clears
    (h : ∀ i j name, Repeats names i j name → Clears names j i name) (s : Nat) :
    OnCourse names s := by
  induction s with
  | zero =>
    exact ⟨fun j x hj => hj.1, fun i j name hr =>
      ⟨name, hr.same, .waiting hr.first (Nat.zero_le i) hr.lt (h i j name hr)⟩⟩
  | succ s ih => exact ih.step

/-- At the end of such a run the names are told apart. -/
theorem OnCourse.toldApart (h : OnCourse names names.length) :
    ToldApart names (namesAfter names names.length) := by
  refine ⟨List.nodup_iff_getElem?_ne_getElem?.mpr fun i j hij hj heq => ?_, h.first⟩
  have hsome := List.getElem?_eq_getElem hj
  have hle : j ≤ names.length := length_namesAfter names names.length ▸ Nat.le_of_lt hj
  have hbefore : i ≤ names.length := Nat.le_trans (Nat.le_of_lt hij) hle
  rcases h.name_cases hle hsome with hjfirst | ⟨⟨y, hy⟩, hjfree⟩ <;>
    rcases h.name_cases hbefore (heq.trans hsome) with hifirst | ⟨⟨z, hz⟩, hifree⟩
  · exact absurd (hifirst.unique hjfirst) (Nat.ne_of_lt hij)
  · exact hifree hjfirst.mem
  · exact hjfree hifirst.mem
  · exact absurd (placed_inj_place (hz.symm.trans hy)) (Nat.ne_of_lt hij)

/-! ## Members that are told apart are clear -/

/-- A name that changes gets longer. -/
theorem eq_or_length_lt (hst : s ≤ t) (hx : (namesAfter names s)[j]? = some x)
    (hy : (namesAfter names t)[j]? = some y) : x = y ∨ x.length < y.length := by
  induction t, hst using Nat.le_induction generalizing y with
  | base => exact .inl (Option.some.inj (hx.symm.trans hy))
  | succ t hst ih =>
    have hlt : j < (namesAfter names t).length := by
      rw [length_namesAfter, ← length_namesAfter names (t + 1)]
      exact (List.getElem?_eq_some_iff.mp hy).1
    have hbefore := List.getElem?_eq_getElem hlt
    rcases step_cases hbefore with ⟨-, -, hstep⟩ | ⟨-, hstep⟩
    · obtain rfl := Option.some.inj (hstep.symm.trans hy)
      have hgrown := length_lt_placed j (namesAfter names t)[j]
      rcases ih hbefore with heq | hlonger
      · exact .inr (heq ▸ hgrown)
      · exact .inr (Nat.lt_trans hlonger hgrown)
    · obtain rfl := Option.some.inj (hstep.symm.trans hy)
      exact ih hbefore

/-- The first members have the names that they derive, at every step. -/
def FirstsKept (names : List String) : Prop :=
  ∀ s ≤ names.length, ∀ j x, FirstAt names j x → (namesAfter names s)[j]? = some x

/-- A name that is lost never comes back. -/
theorem firstsKept_of_kept
    (h : ∀ j x, FirstAt names j x → (namesAfter names names.length)[j]? = some x) :
    FirstsKept names := by
  intro s hs j x hj
  have hlt : j < (namesAfter names s).length := by
    rw [length_namesAfter]
    exact (List.getElem?_eq_some_iff.mp hj.1).1
  have hsome := List.getElem?_eq_getElem hlt
  rcases eq_or_length_lt (Nat.zero_le s) hj.1 hsome with heq | hlonger
  · rw [hsome, ← heq]
  · have hend := h j x hj
    rcases eq_or_length_lt hs hsome hend with heq | hshorter
    · rw [hsome, heq]
    · exact absurd hshorter (Nat.not_lt_of_gt hlonger)

/-- The step at a place whose name is derived somewhere is the step of the first member there. -/
theorem FirstsKept.eq_place (h : FirstsKept names) (hs : s < names.length)
    (hx : (namesAfter names s)[s]? = some x) (hk : FirstAt names k x) : k = s := by
  by_contra hne
  have hbefore := h s (Nat.le_of_lt hs) k x hk
  have hafter := h (s + 1) hs k x hk
  rcases step_cases hbefore with ⟨-, -, hrenamed⟩ | ⟨hstays, -⟩
  · have heq := Option.some.inj (hafter.symm.trans hrenamed)
    exact absurd (congrArg String.length heq) (Nat.ne_of_lt (length_lt_placed k x))
  · exact hstays ⟨Ne.symm hne, hx⟩

/-- A member keeps a derived name until the step of the first member of that name, and its own step
does not come before that. -/
theorem FirstsKept.stays (h : FirstsKept names) (hx : (namesAfter names s)[j]? = some x)
    (hk : FirstAt names k x) (hst : s ≤ t) (ht : t ≤ names.length) (hskip : k < s ∨ t ≤ k) :
    (namesAfter names t)[j]? = some x ∧ (j < s ∨ t ≤ j) := by
  induction t, hst using Nat.le_induction with
  | base => exact ⟨hx, Nat.lt_or_ge j s⟩
  | succ t hst ih =>
    obtain ⟨hbefore, hown⟩ := ih (by omega) (by omega)
    have hother : ¬ (namesAfter names t)[t]? = some x := by
      intro htx
      have heq := h.eq_place ht htx hk
      omega
    have hne : j ≠ t := by
      rintro rfl
      exact hother hbefore
    rcases step_cases hbefore with ⟨-, htx, -⟩ | ⟨-, hkept⟩
    · exact absurd htx hother
    · exact ⟨hkept, by omega⟩

/-- Where the first members keep their names, a repeating member is clear whatever derived name it has
before its own step. -/
theorem FirstsKept.clears (h : FirstsKept names) (hj : j < names.length)
    (hrepeats : ∀ x, ¬ FirstAt names j x) (hsj : s ≤ j)
    (hx : (namesAfter names s)[j]? = some x) (hk : FirstAt names k x) :
    s ≤ k ∧ k < j ∧ Clears names j k x := by
  induction hleft : j - s using Nat.strong_induction_on generalizing s k x with
  | _ left ih =>
    have hkj : k ≠ j := by
      rintro rfl
      exact hrepeats x hk
    have hsk : s ≤ k := by
      by_contra hks
      have hnever := (h.stays hx hk (by omega) (Nat.le_refl _) (by omega)).2
      omega
    have hkn : k < names.length := (List.getElem?_eq_some_iff.mp hk.1).1
    obtain ⟨hbefore, hown⟩ := h.stays hx hk hsk (Nat.le_of_lt hkn) (.inr (Nat.le_refl k))
    have hlt : k < j := by omega
    refine ⟨hsk, hlt, ?_⟩
    have hstep := h k (Nat.le_of_lt hkn) k x hk
    rcases step_cases hbefore with ⟨-, -, hrenamed⟩ | ⟨hstays, -⟩
    · by_cases hmem : placed j x ∈ names
      · obtain ⟨i, hi⟩ := List.mem_iff_getElem?.mp hmem
        obtain ⟨next, -, hnext⟩ := exists_firstAt hi
        obtain ⟨hknext, hnextj, hclear⟩ := ih _ (by omega) hlt hrenamed hnext rfl
        exact .passed hnext hknext hnextj hclear
      · exact .free hmem
    · exact absurd ⟨hkj, hstep⟩ hstays

theorem toldApart_namesAfter_iff :
    ToldApart names (namesAfter names names.length) ↔
      ∀ i j name, Repeats names i j name → Clears names j i name := by
  constructor
  · intro h i j name hr
    have hj : j < names.length := (List.getElem?_eq_some_iff.mp hr.same).1
    refine ((firstsKept_of_kept h.kept).clears hj (fun x hx => ?_) (Nat.zero_le j) hr.same
      hr.first).2.2
    obtain rfl := Option.some.inj (hr.same.symm.trans hx.1)
    exact absurd hr.first.1 (hx.2 i hr.lt)
  · exact fun h => (onCourse_of_clears h _).toldApart

end Run

/-! ## The members of an enum -/

/-- The names that the members of an enum derive from their values. -/
def derivedNames (v : Conventions) (values : List Json) (datatype : String) : List String :=
  values.map fun value => v.enumMemberName (displayName (stem values) value) datatype

theorem map_name_membersOf (v : Conventions) (values : List Json) (datatype : String) :
    (membersOf v values datatype).map (·.name) =
      namesAfter (derivedNames v values datatype) (derivedNames v values datatype).length := by
  rw [membersOf, map_name_distinguish, List.map_map]
  rfl

/-- The members of an enum have different names, each kept by the first member that derives it,
exactly if every member that derives a name again is clear: with its place at the end its name is no
derived one, or one that is first derived between the place before and its own, and so on from there.
-/
theorem toldApart_membersOf_iff (v : Conventions) (values : List Json) (datatype : String) :
    ToldApart (derivedNames v values datatype) ((membersOf v values datatype).map (·.name)) ↔
      ∀ i j name, Repeats (derivedNames v values datatype) i j name →
        Clears (derivedNames v values datatype) j i name := by
  rw [map_name_membersOf]
  exact toldApart_namesAfter_iff

/-- The step at the first `x` leads the second one to the name of a member whose step is over, so its
own step renames that one, and to a name that is taken as well. -/
theorem not_toldApart_versions :
    let values := ["x_3_1", "x_3", "x!", "x"].map Json.string
    derivedNames (.neutral false) values "string" = ["x_3_1", "x_3", "x", "x"] ∧
      (membersOf (.neutral false) values "string").map (·.name) =
        ["x_3_1", "x_3_1", "x", "x_3"] ∧
      ¬ ((membersOf (.neutral false) values "string").map (·.name)).Nodup ∧
      ¬ ToldApart (derivedNames (.neutral false) values "string")
        ((membersOf (.neutral false) values "string").map (·.name)) := by
  have hgiven : (membersOf (.neutral false) (["x_3_1", "x_3", "x!", "x"].map Json.string)
      "string").map (·.name) = ["x_3_1", "x_3_1", "x", "x_3"] := by decide +kernel
  have hsame : ¬ ["x_3_1", "x_3_1", "x", "x_3"].Nodup := by decide
  intro values
  rw [hgiven]
  exact ⟨by decide +kernel, rfl, hsame, fun h => hsame h.distinct⟩

end EnumValues
end ApiResolution
