import ApiResolution.Proofs.Context
import ApiResolution.Proofs.Reference
import Mathlib.Data.List.Nodup

/-!
Chains of references between schemas. `Context.Chain` is such a chain with the names that it passes
and no bound; what has an end does not turn in a circle (`Chain.nodup`). Following references with a
bound on the hops finds the end of a short chain and nothing else (`chainEnd?_eq_some_iff`). So a
schema is dereferenced to the end of its chain if the chain has at most 31 hops, and to itself
otherwise (`dereference_eq_iff`).
-/

namespace ApiResolution

namespace Context

/-- A schema leads over references to one that refers to no name; the names are those on the way. -/
inductive Chain (c : Context) : Schema → List String → Schema → Prop
  | here {s : Schema} (hn : c.refName? s = none) : Chain c s [] s
  | through {s target t : Schema} {name : String} {names : List String}
      (hn : c.refName? s = some name) (hs : c.schema? name = some target)
      (ht : Chain c target names t) : Chain c s (name :: names) t

variable {c : Context} {s s' t t' : Schema} {names names' : List String}

namespace Chain

theorem unique (h : c.Chain s names t) (h' : c.Chain s names' t') : names = names' ∧ t = t' := by
  induction h generalizing names' with
  | here hn =>
    cases h' with
    | here => exact ⟨rfl, rfl⟩
    | through hn' => exact absurd (hn.symm.trans hn') (by simp)
  | through hn hs _ ih =>
    cases h' with
    | here hn' => exact absurd (hn.symm.trans hn') (by simp)
    | through hn' hs' ht' =>
      obtain rfl := Option.some.inj (hn.symm.trans hn')
      obtain rfl := Option.some.inj (hs.symm.trans hs')
      obtain ⟨rfl, rfl⟩ := ih ht'
      exact ⟨rfl, rfl⟩

theorem refName?_end (h : c.Chain s names t) : c.refName? t = none := by
  induction h with
  | here hn => exact hn
  | through _ _ _ ih => exact ih

theorem head?_eq (h : c.Chain s names t) : names.head? = c.refName? s := by
  cases h with
  | here hn => exact hn.symm
  | through hn => exact hn.symm

/-- From each of its names on, a chain is the chain of the schema of that name. -/
theorem exists_suffix (h : c.Chain s names t) {name : String} (hname : name ∈ names) :
    ∃ target rest, c.schema? name = some target ∧ c.Chain target rest t ∧
      name :: rest <:+ names := by
  induction h with
  | here => simp at hname
  | through hn hs ht ih =>
    rcases List.mem_cons.mp hname with rfl | hname
    · exact ⟨_, _, hs, ht, List.suffix_refl _⟩
    · obtain ⟨target, rest, htarget, hrest, hsuffix⟩ := ih hname
      exact ⟨target, rest, htarget, hrest, hsuffix.trans (List.suffix_cons _ _)⟩

/-- A chain that has an end does not turn in a circle. -/
theorem nodup (h : c.Chain s names t) : names.Nodup := by
  induction h with
  | here => exact List.nodup_nil
  | @through s target t name names hn hs ht ih =>
    refine List.nodup_cons.mpr ⟨fun hname => ?_, ih⟩
    -- If its first name came again, the rest of the chain would be longer than itself.
    obtain ⟨target', rest, hs', hrest, hsuffix⟩ := ht.exists_suffix hname
    obtain rfl := Option.some.inj (hs.symm.trans hs')
    obtain ⟨rfl, -⟩ := ht.unique hrest
    exact absurd hsuffix.length_le (by simp)

theorem getLast?_eq_of_suffix {name : String} {rest : List String}
    (h : name :: rest <:+ names) : names.getLast? = (name :: rest).getLast? := by
  obtain ⟨front, rfl⟩ := h
  rw [List.getLast?_append, List.getLast?_cons, Option.some_or]

/-- Chains that share a name end alike. -/
theorem getLast?_eq_of_mem (h : c.Chain s names t) (h' : c.Chain s' names' t') {name : String}
    (hname : name ∈ names) (hname' : name ∈ names') : names.getLast? = names'.getLast? := by
  obtain ⟨target, rest, htarget, hrest, hsuffix⟩ := h.exists_suffix hname
  obtain ⟨target', rest', htarget', hrest', hsuffix'⟩ := h'.exists_suffix hname'
  obtain rfl := Option.some.inj (htarget.symm.trans htarget')
  obtain ⟨rfl, -⟩ := hrest.unique hrest'
  rw [getLast?_eq_of_suffix hsuffix, getLast?_eq_of_suffix hsuffix']

theorem disjoint_iff (h : c.Chain s names t) (h' : c.Chain s' names' t') :
    names.Disjoint names' ↔ ∀ last ∈ names.getLast?, ∀ last' ∈ names'.getLast?, last ≠ last' := by
  constructor
  · rintro hdisjoint last hlast _ hlast' rfl
    exact hdisjoint (List.mem_of_getLast? hlast) (List.mem_of_getLast? hlast')
  · intro hends name hname hname'
    have hne : names ≠ [] := List.ne_nil_of_mem hname
    have hlast : names.getLast? = some (names.getLast hne) := List.getLast?_eq_some_getLast hne
    exact hends _ hlast _ ((h.getLast?_eq_of_mem h' hname hname').symm.trans hlast) rfl

end Chain

/-- Chains pass no name twice, taken together, exactly when no two of them end alike. -/
theorem nodup_flatten_chains {chains : List (List String)}
    (h : ∀ names ∈ chains, ∃ s t, c.Chain s names t) :
    chains.flatten.Nodup ↔ (chains.filterMap List.getLast?).Nodup := by
  have hnodup : ∀ names ∈ chains, names.Nodup := fun names hnames => by
    obtain ⟨s, t, hchain⟩ := h names hnames
    exact hchain.nodup
  rw [List.nodup_flatten, and_iff_right hnodup, List.Nodup, List.pairwise_filterMap]
  refine List.Pairwise.iff_of_mem fun {names names'} hnames hnames' => ?_
  obtain ⟨s, t, hchain⟩ := h names hnames
  obtain ⟨s', t', hchain'⟩ := h names' hnames'
  exact hchain.disjoint_iff hchain'

/-! ## The bounded walk -/

theorem chain_iff_of_end (hn : c.refName? s = none) : c.Chain s names t ↔ names = [] ∧ t = s := by
  constructor
  · intro h
    exact h.unique (.here hn)
  · rintro ⟨rfl, rfl⟩
    exact .here hn

theorem chain_iff_of_link {name : String} (hn : c.refName? s = some name) :
    c.Chain s names t ↔ ∃ target, c.schema? name = some target ∧
      ∃ rest, c.Chain target rest t ∧ names = name :: rest := by
  constructor
  · intro h
    cases h with
    | here hn' => exact absurd (hn.symm.trans hn') (by simp)
    | through hn' hs ht =>
      obtain rfl := Option.some.inj (hn.symm.trans hn')
      exact ⟨_, hs, _, ht, rfl⟩
  · rintro ⟨target, hs, rest, ht, rfl⟩
    exact .through hn hs ht

/-- Following references with a bound on the hops finds the end of a chain that is short enough and
meets none of the names that were seen before. -/
theorem chainEnd?_eq_some_iff {hops : Nat} {seen : List String} :
    c.chainEnd? hops seen s = some t ↔
      ∃ names, c.Chain s names t ∧ names.length < hops ∧ names.Disjoint seen := by
  induction hops generalizing seen s with
  | zero => simp [chainEnd?]
  | succ hops ih =>
    rw [chainEnd?]
    cases hn : c.refName? s with
    | none =>
      simp only [chain_iff_of_end hn, and_assoc, exists_eq_left, List.length_nil, Nat.succ_pos,
        List.disjoint_nil_left, and_true, Option.some.injEq]
      exact eq_comm
    | some name =>
      simp only [chain_iff_of_link hn]
      by_cases hseen : name ∈ seen
      · rw [if_pos (List.contains_iff_mem.mpr hseen)]
        refine iff_of_false (by simp) ?_
        rintro ⟨_, ⟨target, -, rest, -, rfl⟩, -, hfresh⟩
        exact hfresh List.mem_cons_self hseen
      · rw [if_neg fun hmem => hseen (List.contains_iff_mem.mp hmem)]
        cases hs : c.schema? name with
        | none => simp
        | some target =>
          dsimp only
          simp only [ih, Option.some.injEq, exists_eq_left']
          constructor
          · rintro ⟨rest, hrest, hlen, hfresh⟩
            refine ⟨_, ⟨rest, hrest, rfl⟩, Nat.succ_lt_succ hlen, ?_⟩
            exact List.disjoint_cons_left.mpr ⟨hseen, (List.disjoint_cons_right.mp hfresh).2⟩
          · rintro ⟨_, ⟨rest, hrest, rfl⟩, hlen, hfresh⟩
            -- A chain does not come back to the name that it starts with.
            have hnodup := (Chain.through hn hs hrest).nodup
            refine ⟨rest, hrest, Nat.lt_of_succ_lt_succ hlen, List.disjoint_cons_right.mpr ⟨?_, ?_⟩⟩
            · exact (List.nodup_cons.mp hnodup).1
            · exact (List.disjoint_cons_left.mp hfresh).2

/-! ## Dereferencing -/

/-- The chain of references from a schema ends at another one after at most 31 hops, and no name
comes twice on it. -/
def Settles (c : Context) (s t : Schema) : Prop :=
  ∃ names, c.Chain s names t ∧ names.Nodup ∧ names.length ≤ 31

theorem settles_iff : c.Settles s t ↔ c.chainEnd? maxHops [] s = some t := by
  rw [chainEnd?_eq_some_iff]
  refine exists_congr fun names => and_congr_right fun hchain => ?_
  simp only [hchain.nodup, true_and, List.disjoint_nil_right, and_true, maxHops]
  omega

/-- A link leads to the name that the text of a reference stands for. A schema that is no reference,
or one without a text, has none. -/
theorem refName?_eq (c : Context) (s : Schema) :
    c.refName? s = (s.refTarget?.filter (· ≠ "")).map (Reference.displayName · c.self) := by
  unfold refName? Schema.refName? Schema.refTarget? Schema.typeTag
  cases s.shape with
  | reference target =>
    dsimp only
    have hname := Reference.displayName_eq_empty_iff target c.self
    by_cases hempty : target = ""
    · obtain rfl := hempty
      simp [hname.mpr rfl, Option.filter, TypeTag.reference?]
    · simp [hempty, mt hname.mp hempty, Option.filter, TypeTag.reference?]
  | _ => rfl

theorem dereference_of_settles (h : c.Settles s t) : c.dereference s = t := by
  rw [dereference, settles_iff.mp h, Option.getD_some]

theorem dereference_of_not_settles (h : ¬ ∃ t, c.Settles s t) : c.dereference s = s := by
  have hnone : c.chainEnd? maxHops [] s = none :=
    Option.eq_none_iff_forall_ne_some.mpr fun t ht => h ⟨t, settles_iff.mpr ht⟩
  rw [dereference, hnone, Option.getD_none]

/-- Dereferencing finds the end of a chain, and gives the schema back where there is none. -/
theorem dereference_eq_iff :
    c.dereference s = t ↔ c.Settles s t ∨ t = s ∧ ¬ ∃ u, c.Settles s u := by
  constructor
  · rintro rfl
    by_cases h : ∃ u, c.Settles s u
    · obtain ⟨u, hu⟩ := h
      rw [dereference_of_settles hu]
      exact .inl hu
    · exact .inr ⟨dereference_of_not_settles h, h⟩
  · rintro (h | ⟨rfl, h⟩)
    · exact dereference_of_settles h
    · exact dereference_of_not_settles h

theorem refName?_of_settles (h : c.Settles s t) : c.refName? t = none := by
  obtain ⟨names, hchain, -⟩ := h
  exact hchain.refName?_end

/-- The result of dereferencing is the end of a chain or the schema itself, so it stays as it is. -/
theorem dereference_dereference (c : Context) (s : Schema) :
    c.dereference (c.dereference s) = c.dereference s := by
  by_cases h : ∃ t, c.Settles s t
  · obtain ⟨t, ht⟩ := h
    rw [dereference_of_settles ht, dereference_eq_self (refName?_of_settles ht)]
  · rw [dereference_of_not_settles h, dereference_of_not_settles h]

/-- A schema is dereferenced to the end of its chain if that settles, to itself otherwise, and once
for all. A chain goes from a reference on to the schema of the name that the text of the reference
stands for; it ends at what is no reference or has no text. -/
theorem dereference_exact (c : Context) (s : Schema) :
    (∀ t, c.dereference s = t ↔ c.Settles s t ∨ t = s ∧ ¬ ∃ u, c.Settles s u) ∧
      c.dereference (c.dereference s) = c.dereference s ∧
      ∀ u, c.refName? u =
        (u.refTarget?.filter (· ≠ "")).map (Reference.displayName · c.self) :=
  ⟨fun _ => dereference_eq_iff, dereference_dereference c s, refName?_eq c⟩

/-- Schemas in a row, each a reference to the one before it. After 31 hops the row is followed to its
end, after 32 no longer. -/
example :
    let row : Entries Schema := ("0", .scalar .string) ::
      (List.range 40).map fun i => (toString (i + 1), .reference (toString i))
    let c : Context := ⟨{}, .neutral false, { components := { schemas := row } }⟩
    (c.dereference (.reference "30")).refTarget? = none ∧
      (c.dereference (.reference "31")).refTarget? = some "31" := by
  decide +kernel

end Context
end ApiResolution
