import ApiResolution.Proofs.Marks
import ApiResolution.Proofs.Model.Composites
import ApiResolution.Proofs.Model.Finished
import ApiResolution.Proofs.Property.Enums

/-!
The enum values of models. When its schema is read, nothing that a model lists has names, be it the
values of the model itself, of its members or of the property of the whole (`enumsFormed_ofSchemas`).
Naming fills in the members of the first two kinds and leaves the last one as it is
(`enumsNamed_ofDocument`).
-/

namespace ApiResolution

namespace Model

/-- Nothing that the model lists has names. -/
structure EnumsFormed (m : Model) : Prop where
  own : Property.Unnamed m.isEnum m.enumValues
  vars : ∀ p ∈ m.vars, p.EnumsFormed
  allVars : ∀ p ∈ m.allVars, p.EnumsFormed
  whole : ∀ p ∈ m.containerProperty, p.EnumsFormed

/-- What the model itself and its members list is named, and what the property of the whole lists
is not. -/
structure EnumsNamed (m : Model) : Prop where
  own : NamedAtEnds [m.enumValues]
  vars : ∀ p ∈ m.vars, NamedAtEnds p.enumChain
  allVars : ∀ p ∈ m.allVars, NamedAtEnds p.enumChain
  whole : ∀ p ∈ m.containerProperty, ∀ e, some e ∈ p.enumChain → ¬ e.Named

variable {c : Context}

theorem enumsFormed_member (c : Context) (model : String) (required : List String) (name : String)
    (s : Schema) : (member c model required name s).value.value.EnumsFormed := by
  rw [value_member]
  refine Property.enumsFormed_toUnion c.conventions ?_ _
  exact (Property.enumsFormed_ofSchema c name s).congr rfl

theorem enumsFormed_members (c : Context) (model : String) (ms : Members) :
    ∀ p ∈ (members c model ms).value.value, p.EnumsFormed := by
  rw [vars_members]
  exact List.forall_mem_map.mpr fun e _ => enumsFormed_member c model ms.required e.1 e.2

theorem enumsFormed_ofSchema {unicode : Bool} (hv : c.conventions = .neutral unicode)
    (name : String) (s : Schema) : (ofSchema c name s).value.value.EnumsFormed where
  own := (fresh_ofSchema c name s).listed
  vars := by
    obtain ⟨m, hvars⟩ := vars_ofSchema c name s
    have hkeeps : c.conventions.finishProperty m = id := funext (keepsMembers_of_neutral hv m)
    rw [hvars, hkeeps, List.map_id]
    exact Property.forall_markHasMore (fun _ _ h => h.congr rfl) (enumsFormed_members c name _)
  allVars := by
    rw [allVars_ofSchema]
    exact Property.forall_markHasMore (fun _ _ h => h.congr rfl) (enumsFormed_members c name _)
  whole := by
    rw [container_ofSchema]
    intro p hp
    unfold wholeProperty? at hp
    split at hp
    · obtain rfl := Option.some.inj hp
      exact Property.enumsFormed_toUnion c.conventions (Property.enumsFormed_ofSchema c name s) _
    · exact absurd hp (by simp)

theorem namedAtEnds_singleton {listed : Option EnumValues} (h : ∀ e ∈ listed, e.Named) :
    NamedAtEnds [listed] := by
  intro i e hi
  cases i with
  | zero =>
    obtain rfl := Option.some.inj hi
    exact iff_of_true (h e rfl) ⟨⟨e, rfl⟩, .inl rfl⟩
  | succ i => exact absurd hi (by simp)

theorem EnumsFormed.nameEnums {unicode : Bool} {m : Model} (h : m.EnumsFormed) :
    (nameEnums (.neutral unicode) m).EnumsNamed where
  own := by
    have henum := h.own.isEnum
    have hvalues : (Model.nameEnums (.neutral unicode) m).enumValues =
        if m.isEnum then m.enumValues.map fun e =>
          { e with members := EnumValues.membersOf (.neutral unicode) e.values (m.dataType.getD "") }
        else m.enumValues := rfl
    refine namedAtEnds_singleton fun e he => ?_
    rw [hvalues, henum] at he
    cases hm : m.enumValues with
    | none => simp [hm] at he
    | some listed =>
      rw [hm] at he
      obtain rfl := Option.some.inj he
      exact EnumValues.map_literal_membersOf _ _ _
  vars := List.forall_mem_map.mpr fun p hp => Property.namedAtEnds_nameIfEnum (fun _ _ => rfl)
    (h.vars p hp)
  allVars := List.forall_mem_map.mpr fun p hp => Property.namedAtEnds_nameIfEnum (fun _ _ => rfl)
    (h.allVars p hp)
  whole := fun p hp => (h.whole p hp).not_named

theorem EnumsNamed.dropVars {m : Model} (h : m.EnumsNamed) (names : List String) :
    (dropVars names m).EnumsNamed := by
  have hmark : ∀ hasMore (p : Property), NamedAtEnds p.enumChain →
      NamedAtEnds ({ p with hasMore } : Property).enumChain := by
    intro hasMore p hp
    have hchain : ({ p with hasMore } : Property).enumChain = p.enumChain :=
      Property.enumChain_congr rfl
    rwa [hchain]
  exact ⟨h.own, Property.forall_markHasMore hmark fun p hp => h.vars p (List.mem_of_mem_filter hp),
    Property.forall_markHasMore hmark h.allVars, h.whole⟩

end Model

namespace ModelMap

/-- The members of enums are named in every model of a document, but not for the property of the
whole. -/
theorem enumsNamed_ofDocument {c : Context} {unicode : Bool}
    (hv : c.conventions = .neutral unicode) : ∀ e ∈ (ofDocument c).value, e.2.EnumsNamed := by
  refine forall_mem_ofDocument (P := Model.EnumsFormed) (Q := Model.EnumsNamed) ?built ?linked
    ?named ?dropped
  case built =>
    refine forall_mem_ofSchemas (fun e _ => Model.enumsFormed_ofSchema hv e.1 e.2) ?_
    intro name branches u hu
    obtain ⟨-, -, -, -, -, -, -, hvars, hallVars, hwhole⟩ := Model.of_ofUnion? hu
    constructor
    · exact (Model.fresh_of_ofUnion? hu).listed
    · simp [hvars]
    · simp [hallVars]
    · simp [hwhole]
  case linked =>
    exact fun _ _ _ _ h => ⟨h.own, h.vars, h.allVars, h.whole⟩
  case named =>
    rw [hv]
    exact fun _ h => h.nameEnums
  case dropped => exact fun names _ h => h.dropVars names

end ModelMap
end ApiResolution
