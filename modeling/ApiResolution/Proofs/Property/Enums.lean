import ApiResolution.Proofs.Property.Settled
import ApiResolution.Proofs.Property.Types

/-!
The enum values along a chain of items. When its schema is read, a property says at every level
whether it lists values, none of them has a name yet, and if the end of the chain lists values then
every level lists the same ones (`enumsFormed_ofSchema`). Naming fills in the members at the two ends
of such a chain (`getElem?_enumChain_nameEnum`), so the values between the ends stay without
members, and all of them do if the end lists none (`namedAtEnds_nameIfEnum`).
-/

namespace ApiResolution

namespace EnumValues

/-- Every value has a member, in order, and its literal is that of the value. -/
def Named (e : EnumValues) : Prop := e.members.map (·.literal) = e.values.map enumLiteral

instance (e : EnumValues) : Decidable e.Named :=
  inferInstanceAs (Decidable (e.members.map (·.literal) = e.values.map enumLiteral))

theorem not_named_of_members_eq_nil {e : EnumValues} (hv : e.values ≠ []) (hm : e.members = []) :
    ¬ e.Named := by
  intro h
  rw [Named, hm, List.map_nil] at h
  exact hv (List.map_eq_nil_iff.mp h.symm)

theorem map_literal_renameLike (i : Nat) (members : List EnumMember) :
    (renameLike i members).map (·.literal) = members.map (·.literal) := by
  unfold renameLike
  split
  · rfl
  · next m _ =>
    have hliteral : ∀ (other : EnumMember) (j : Nat), (if i ≠ j ∧ other.name = m.name then
        { other with name := m.name ++ "_" ++ toString j } else other).literal = other.literal := by
      intro other j
      split <;> rfl
    have hplaces := congrArg (List.map (·.literal)) (List.zipIdx_map_fst 0 members)
    rw [List.map_map] at hplaces ⊢
    rw [← hplaces]
    exact List.map_congr_left fun x _ => hliteral x.1 x.2

/-- Telling members apart changes no literal. -/
theorem map_literal_distinguish (members : List EnumMember) :
    (distinguish members).map (·.literal) = members.map (·.literal) := by
  unfold distinguish
  generalize List.range members.length = places
  induction places generalizing members with
  | nil => rfl
  | cons i places ih => rw [List.foldl_cons, ih, map_literal_renameLike]

theorem map_literal_membersOf (v : Conventions) (values : List Json) (datatype : String) :
    (membersOf v values datatype).map (·.literal) =
      values.map fun value => v.enumValueLiteral value datatype := by
  unfold membersOf
  dsimp only
  rw [map_literal_distinguish, List.map_map]
  rfl

end EnumValues

namespace Property

/-! ## Marks -/

theorem innermost_setHasMore (more : Bool) (p : Property) :
    ({ p with hasMore := more } : Property).innermost.enumValues = p.innermost.enumValues ∧
      ({ p with hasMore := more } : Property).innermost.datatype = p.innermost.datatype := by
  rcases p with ⟨facts, items⟩
  cases items <;> exact ⟨rfl, rfl⟩

theorem nameDefault_setHasMore (v : Conventions) (values : List Json) (members : List EnumMember)
    (more : Bool) (p : Property) :
    mapInnermost (setMembers members)
        (setMembers members (nameDefault v values members { p with hasMore := more })) =
      { mapInnermost (setMembers members) (setMembers members (nameDefault v values members p)) with
        hasMore := more } := by
  rcases p with ⟨facts, items⟩
  unfold nameDefault setMembers
  dsimp only
  split <;> cases items <;> rfl

/-- Naming the members of an enum does not look at the mark. -/
theorem nameIfEnum_setHasMore (v : Conventions) (more : Bool) (p : Property) :
    nameIfEnum v { p with hasMore := more } = { nameIfEnum v p with hasMore := more } := by
  unfold nameIfEnum
  dsimp only
  split
  · unfold nameEnum
    dsimp only
    rw [(innermost_setHasMore more p).1, (innermost_setHasMore more p).2]
    cases p.innermost.enumValues with
    | none => rfl
    | some e => exact nameDefault_setHasMore v e.values _ more p
  · rfl

/-! ## What types leave alone -/

/-- What setting the type of a property without items leaves alone. -/
def kept (p : Property) : Bool × Bool × Option EnumValues × Option Property :=
  (p.hasMore, p.isEnum, p.enumValues, p.items)

theorem kept_refreshLeaf (v : Conventions) (p : Property) : (refreshLeaf v p).kept = p.kept := by
  unfold refreshLeaf
  split <;> rfl

theorem kept_setType (v : Conventions) (tag : TypeTag) (p : Property) :
    (setType v tag p).kept = p.kept := by
  unfold setType
  exact kept_refreshLeaf v _

theorem kept_pointLeaf (v : Conventions) (model : String) (p : Property) :
    (pointLeaf v model p).kept = p.kept :=
  kept_setType v (.reference model) p

/-- A container takes over the values at the end of the chain, if there are any. -/
theorem kept_around (v : Conventions) (facts : PropertyFacts) (inner : Property) :
    (around v facts inner).kept =
      if inner.innermost.isEnum then (facts.hasMore, true, inner.innermost.enumValues, some inner)
      else (facts.hasMore, facts.isEnum, facts.enumValues, some inner) := by
  unfold around
  dsimp only
  split <;> rfl

theorem kept_cutOff (c : Context) (name : String) (s : Schema) :
    (cutOff c name s).value.kept = (false, false, none, none) :=
  kept_setType _ _ _

theorem kept_leaf (c : Context) (name : String) (s : Schema) :
    (leaf c name s).value.kept =
      (false, s.isEnum, if s.isEnum then some { values := s.enumValues } else none, none) := by
  unfold leaf
  simp only [Noted.value_bind, Noted.value_pure]
  exact kept_setType _ _ _

theorem exists_wrap_eq_around (v : Conventions) (kind : ContainerKind) (facts : PropertyFacts)
    (inner : Property) :
    ∃ facts' : PropertyFacts, wrap v kind facts inner = around v facts' (refresh v inner) ∧
      facts'.hasMore = facts.hasMore ∧ facts'.isEnum = facts.isEnum ∧
      facts'.enumValues = facts.enumValues :=
  ⟨_, rfl, rfl, rfl, rfl⟩

/-- No property of a schema is marked. -/
theorem hasMore_ofSchema (c : Context) (name : String) (s : Schema) :
    (ofSchema c name s).value.hasMore = false := by
  refine ofSchemaAt_induction (P := fun p => p.hasMore = false) ?_ ?_ ?_ 0 name s
  · exact fun name s => congrArg (·.1) (kept_cutOff c name s)
  · exact fun name s => congrArg (·.1) (kept_leaf c name s)
  · intro kind name s inner _
    obtain ⟨facts, heq, hmore, -⟩ :=
      exists_wrap_eq_around c.conventions kind (start c name s).value.2 inner
    rw [heq]
    refine (congrArg (·.1) (kept_around c.conventions facts _)).trans ?_
    split <;> exact hmore

/-! ## Chains of enums -/

/-- A property that lists values says so, there are some, and none of them has a name. -/
structure Unnamed (isEnum : Bool) (enumValues : Option EnumValues) : Prop where
  isEnum : isEnum = enumValues.isSome
  values : ∀ e ∈ enumValues, e.values ≠ [] ∧ e.members = []

/-- At every level of the chain the listed values are noted and without names, and the levels of a
chain whose end lists values list the same ones. -/
def EnumsFormed : Property → Prop
  | ⟨facts, none⟩ => Unnamed facts.isEnum facts.enumValues
  | ⟨facts, some inner⟩ => Unnamed facts.isEnum facts.enumValues ∧ EnumsFormed inner ∧
      (inner.innermost.isEnum = true → facts.enumValues = inner.innermost.enumValues)

theorem EnumsFormed.unnamed {p : Property} (h : EnumsFormed p) :
    Unnamed p.isEnum p.enumValues := by
  rcases p with ⟨facts, items⟩
  cases items with
  | none => exact h
  | some inner => exact h.1

theorem EnumsFormed.innermost {p : Property} (h : EnumsFormed p) : EnumsFormed p.innermost := by
  induction p using Property.innermost.induct with
  | case1 facts => exact h
  | case2 facts inner ih => exact ih h.2.1

theorem EnumsFormed.of_mem_levels {p : Property} (h : EnumsFormed p) :
    ∀ q ∈ p.levels, Unnamed q.isEnum q.enumValues := by
  induction p using Property.innermost.induct with
  | case1 facts => exact List.forall_mem_singleton.mpr h
  | case2 facts inner ih => exact List.forall_mem_cons.mpr ⟨h.1, ih h.2.1⟩

/-- A chain whose end lists values lists them at every level. -/
theorem EnumsFormed.enumValues_of_mem_levels {p : Property} (h : EnumsFormed p)
    (hend : p.innermost.isEnum = true) :
    ∀ q ∈ p.levels, q.enumValues = p.innermost.enumValues := by
  induction p using Property.innermost.induct with
  | case1 facts => exact List.forall_mem_singleton.mpr rfl
  | case2 facts inner ih => exact List.forall_mem_cons.mpr ⟨h.2.2 hend, ih h.2.1 hend⟩

/-- Only the listed values and the items of a property count. -/
theorem EnumsFormed.congr {p q : Property} (h : EnumsFormed p) (hkept : q.kept.2 = p.kept.2) :
    EnumsFormed q := by
  rcases p with ⟨facts, items⟩
  rcases q with ⟨facts', items'⟩
  simp only [kept, Prod.mk.injEq] at hkept
  obtain ⟨henum, hvalues, rfl⟩ := hkept
  cases items' with
  | none =>
    rw [EnumsFormed] at h ⊢
    rwa [henum, hvalues]
  | some inner =>
    rw [EnumsFormed] at h ⊢
    rwa [henum, hvalues]

theorem enumsFormed_around (v : Conventions) {facts : PropertyFacts} {inner : Property}
    (hfacts : Unnamed facts.isEnum facts.enumValues) (hinner : EnumsFormed inner) :
    EnumsFormed (around v facts inner) := by
  have hkept := kept_around v facts inner
  generalize around v facts inner = p at hkept
  rcases p with ⟨facts', items⟩
  simp only [kept] at hkept
  have hend := hinner.innermost.unnamed
  split at hkept
  · next henum =>
    obtain ⟨-, hisEnum, hvalues, rfl⟩ := by simpa only [Prod.mk.injEq] using hkept
    rw [EnumsFormed, hisEnum, hvalues]
    exact ⟨henum ▸ hend, hinner, fun _ => rfl⟩
  · next henum =>
    obtain ⟨-, hisEnum, hvalues, rfl⟩ := by simpa only [Prod.mk.injEq] using hkept
    rw [EnumsFormed, hisEnum, hvalues]
    exact ⟨hfacts, hinner, fun h => absurd h henum⟩

theorem enumsFormed_refresh (v : Conventions) {p : Property} (h : EnumsFormed p) :
    EnumsFormed (refresh v p) := by
  induction p using Property.innermost.induct with
  | case1 facts => exact h.congr (congrArg (·.2) (kept_refreshLeaf v _))
  | case2 facts inner ih => exact enumsFormed_around v h.1 (ih h.2.1)

theorem enumsFormed_retype (v : Conventions) (model : String) {p : Property} (h : EnumsFormed p) :
    EnumsFormed (retype v model p) := by
  induction p using Property.innermost.induct with
  | case1 facts =>
    have hpoint : EnumsFormed (pointLeaf v model ⟨facts, none⟩) :=
      h.congr (congrArg (·.2) (kept_pointLeaf v model _))
    exact enumsFormed_refresh v hpoint
  | case2 facts inner ih => exact enumsFormed_around v h.1 (ih h.2.1)

theorem enumsFormed_toUnion (v : Conventions) {p : Property} (h : EnumsFormed p)
    (union : Option Model) : EnumsFormed (p.toUnion v union) := by
  cases union with
  | none => exact h
  | some union => exact (enumsFormed_retype v union.className h).congr rfl

theorem unnamed_listed (s : Schema) :
    Unnamed s.isEnum (if s.isEnum then some { values := s.enumValues } else none) := by
  have henum : s.isEnum = true ↔ s.enumValues ≠ [] := by simp [Schema.isEnum]
  by_cases h : s.isEnum = true
  · rw [if_pos h, h]
    refine ⟨rfl, fun e he => ?_⟩
    obtain rfl := Option.some.inj he
    exact ⟨henum.mp h, rfl⟩
  · rw [if_neg h, Bool.eq_false_iff.mpr h]
    exact ⟨rfl, by simp⟩

theorem enumsFormed_of_kept {p : Property} {hasMore isEnum : Bool} {enumValues : Option EnumValues}
    (h : p.kept = (hasMore, isEnum, enumValues, none)) (hlisted : Unnamed isEnum enumValues) :
    EnumsFormed p := by
  rcases p with ⟨facts, items⟩
  obtain ⟨-, rfl, rfl, rfl⟩ := by simpa only [kept, Prod.mk.injEq] using h
  exact hlisted

/-- The property of a schema lists values in this way. -/
theorem enumsFormed_ofSchema (c : Context) (name : String) (s : Schema) :
    EnumsFormed (ofSchema c name s).value := by
  refine ofSchemaAt_induction (P := EnumsFormed) ?_ ?_ ?_ 0 name s
  · exact fun name s => enumsFormed_of_kept (kept_cutOff c name s) ⟨rfl, by simp⟩
  · exact fun name s => enumsFormed_of_kept (kept_leaf c name s) (unnamed_listed s)
  · intro kind name s inner hinner
    obtain ⟨facts, heq, -, henum, hvalues⟩ :=
      exists_wrap_eq_around c.conventions kind (start c name s).value.2 inner
    rw [heq]
    refine enumsFormed_around c.conventions ?_ (enumsFormed_refresh c.conventions hinner)
    rw [henum, hvalues]
    exact unnamed_listed s

/-! ## Naming along a chain -/

/-- What is listed at each level of a chain, from the outside in. -/
def enumChain (p : Property) : List (Option EnumValues) := p.levels.map (·.enumValues)

theorem enumChain_eq (p : Property) :
    p.enumChain = p.enumValues :: (p.items.elim [] enumChain) := by
  rcases p with ⟨facts, items⟩
  cases items <;> rfl

/-- Only the listed values and the items of a property count. -/
theorem enumChain_congr {p q : Property} (hkept : q.kept.2.2 = p.kept.2.2) :
    q.enumChain = p.enumChain := by
  obtain ⟨hvalues, hitems⟩ := Prod.mk.inj hkept
  rw [enumChain_eq, enumChain_eq p, hvalues, hitems]

theorem getLast?_enumChain (p : Property) : p.enumChain.getLast? = some p.innermost.enumValues := by
  induction p using Property.innermost.induct with
  | case1 facts => rfl
  | case2 facts inner ih =>
    have hchain : (enumChain ⟨facts, some inner⟩) = facts.enumValues :: inner.enumChain := rfl
    rw [hchain, List.getLast?_cons, ih]
    rfl

theorem length_enumChain_of_settled {p q : Property} (h : p.settled = q.settled) :
    p.enumChain.length = q.enumChain.length := by
  have hlevels := congrArg (·.levels.length) h
  simpa only [levels_settled, List.length_map, enumChain] using hlevels

/-- Members that are set at the end of a chain are seen at the last level only. -/
theorem getElem?_enumChain_mapInnermost (members : List EnumMember) (p : Property) (i : Nat) :
    (mapInnermost (setMembers members) p).enumChain[i]? = p.enumChain[i]?.map fun listed =>
      if i + 1 = p.enumChain.length then listed.map fun e => { e with members } else listed := by
  induction p using Property.innermost.induct generalizing i with
  | case1 facts => cases i <;> rfl
  | case2 facts inner ih =>
    have hchain : (enumChain ⟨facts, some inner⟩) = facts.enumValues :: inner.enumChain := rfl
    have hmapped : (mapInnermost (setMembers members) ⟨facts, some inner⟩).enumChain =
        facts.enumValues :: (mapInnermost (setMembers members) inner).enumChain := rfl
    rw [hchain, hmapped]
    cases i with
    | zero =>
      have hne : 0 + 1 ≠ (facts.enumValues :: inner.enumChain).length := by
        rw [enumChain_eq]
        simp
      rw [List.getElem?_cons_zero, List.getElem?_cons_zero, Option.map_some, if_neg hne]
    | succ i =>
      rw [List.getElem?_cons_succ, List.getElem?_cons_succ, ih]
      simp only [List.length_cons, Nat.add_right_cancel_iff]

/-- Members that are set at the outermost level are seen there only. -/
theorem getElem?_enumChain_setMembers (members : List EnumMember) (p : Property) (i : Nat) :
    (setMembers members p).enumChain[i]? = p.enumChain[i]?.map fun listed =>
      if i = 0 then listed.map fun e => { e with members } else listed := by
  rw [enumChain_eq, enumChain_eq p]
  cases i with
  | zero => rfl
  | succ i =>
    rw [List.getElem?_cons_succ, List.getElem?_cons_succ]
    simp [setMembers]

theorem enumChain_nameDefault (v : Conventions) (values : List Json) (members : List EnumMember)
    (p : Property) : (nameDefault v values members p).enumChain = p.enumChain := by
  unfold nameDefault
  split
  · exact enumChain_congr rfl
  · rfl

/-- Naming sets members at the two ends of a chain. -/
theorem getElem?_enumChain_nameEnum (v : Conventions) {p : Property} {e : EnumValues}
    (hend : p.innermost.enumValues = some e) (i : Nat) :
    (nameEnum v p).enumChain[i]? = p.enumChain[i]?.map fun listed =>
      if i = 0 ∨ i + 1 = p.enumChain.length then listed.map fun e' =>
        { e' with members := EnumValues.membersOf v e.values p.innermost.datatype }
      else listed := by
  have hlength : ∀ members, (setMembers members (nameDefault v e.values members p)).enumChain.length =
      p.enumChain.length := fun members => length_enumChain_of_settled
    ((settled_setMembers members _).trans (settled_nameDefault v e.values members p))
  unfold nameEnum
  simp only [hend]
  rw [getElem?_enumChain_mapInnermost, getElem?_enumChain_setMembers, enumChain_nameDefault, hlength]
  cases p.enumChain[i]? with
  | none => rfl
  | some listed =>
    simp only [Option.map_some]
    by_cases hfirst : i = 0
    · simp [hfirst, Function.comp_def]
    · simp [hfirst]

end Property

/-- Along a chain of listed values, those at the two ends have named members if the end lists values
at all, and no others have. -/
def NamedAtEnds (chain : List (Option EnumValues)) : Prop :=
  ∀ i e, chain[i]? = some (some e) →
    (e.Named ↔ (∃ last, chain.getLast? = some (some last)) ∧ (i = 0 ∨ i + 1 = chain.length))

namespace Property

/-- No values in a chain that was not named have named members. -/
theorem EnumsFormed.not_named {p : Property} (h : EnumsFormed p) :
    ∀ e, some e ∈ p.enumChain → ¬ e.Named := by
  intro e he
  obtain ⟨q, hq, hqe⟩ := List.mem_map.mp he
  obtain ⟨hvalues, hmembers⟩ := (h.of_mem_levels q hq).values e hqe
  exact EnumValues.not_named_of_members_eq_nil hvalues hmembers

/-- Nothing is named along a chain whose end lists no values. -/
theorem nameIfEnum_eq_self (v : Conventions) {p : Property} (hend : p.innermost.enumValues = none) :
    nameIfEnum v p = p := by
  unfold nameIfEnum nameEnum
  simp [hend]

/-- A chain whose end lists values is an enum as a whole. -/
theorem EnumsFormed.nameIfEnum_eq {p : Property} (h : EnumsFormed p) (v : Conventions)
    {listed : EnumValues} (hall : ∀ q ∈ p.levels, q.enumValues = some listed) :
    nameIfEnum v p = nameEnum v p := by
  refine if_pos ?_
  rw [h.unnamed.isEnum, hall p (mem_levels_self p)]
  rfl

/-- Naming leaves values at the end of a chain. -/
theorem exists_getLast?_enumChain (v : Conventions) {p : Property} {listed : EnumValues}
    (hend : p.innermost.enumValues = some listed) :
    ∃ last, (nameIfEnum v p).enumChain.getLast? = some (some last) := by
  have hinner := congrArg (·.innermost.enumValues) (settled_nameIfEnum v p)
  simp only [innermost_settled, enumValues_settled, hend] at hinner
  obtain ⟨last, hlast, -⟩ := Option.map_eq_some_iff.mp hinner
  exact ⟨last, by rw [getLast?_enumChain, hlast]⟩

/-- Naming the enum of a formed chain names the values at its two ends, if the end lists values. -/
theorem namedAtEnds_nameIfEnum {v : Conventions}
    (hv : ∀ value datatype, v.enumValueLiteral value datatype = enumLiteral value) {p : Property}
    (h : EnumsFormed p) : NamedAtEnds (nameIfEnum v p).enumChain := by
  intro i e hi
  cases hend : p.innermost.enumValues with
  | none =>
    rw [nameIfEnum_eq_self v hend] at hi ⊢
    rw [getLast?_enumChain, hend]
    refine iff_of_false (h.not_named e (List.mem_of_getElem? hi)) ?_
    rintro ⟨⟨last, hlast⟩, -⟩
    exact absurd hlast (by simp)
  | some listed =>
    have hall : ∀ q ∈ p.levels, q.enumValues = some listed := by
      rw [← hend]
      exact h.enumValues_of_mem_levels (by rw [h.innermost.unnamed.isEnum, hend]; rfl)
    rw [and_iff_right (exists_getLast?_enumChain v hend),
      length_enumChain_of_settled (settled_nameIfEnum v p)]
    rw [h.nameIfEnum_eq v hall, getElem?_enumChain_nameEnum v hend] at hi
    obtain ⟨before, hbefore, hnamed⟩ := Option.map_eq_some_iff.mp hi
    obtain ⟨q, hq, rfl⟩ := List.mem_map.mp (List.mem_of_getElem? hbefore)
    rw [hall q hq] at hbefore hnamed
    split at hnamed
    · next hends =>
      obtain rfl := Option.some.inj hnamed
      refine iff_of_true ?_ hends
      rw [EnumValues.Named, EnumValues.map_literal_membersOf]
      exact List.map_congr_left fun value _ => hv value _
    · next hends =>
      obtain rfl := Option.some.inj hnamed
      exact iff_of_false (h.not_named _ (List.mem_of_getElem? hbefore)) hends

end Property
end ApiResolution
