import ApiResolution.Proofs.Reference.Segments
import ApiResolution.Proofs.Security

/-!
References to security schemes beside references to other components. A reference to a scheme is
followed by its last segment as it is written, whatever stands before it; a reference to another
component has to be a pointer into its section of the document, and the segment is decoded. The two
ways lead to the same scheme exactly when the reference is such a pointer and its last segment holds
no escape, or when neither of them leads to a scheme (`followed?_eq_pointed?_iff`).
-/

namespace ApiResolution
namespace SecurityScheme

/-! ## The last segment -/

/-- The last segment is what stands behind the last slash, and the whole text without one. -/
theorem lastSegment_eq_iff {target segment : String} :
    lastSegment target = segment ↔ '/' ∉ segment.toList ∧
      (target = segment ∨ ∃ front, target.toList = front ++ '/' :: segment.toList) := by
  have hbare : ∀ t : String, '/' ∉ t.toList → lastSegment t = t := by
    intro t ht
    have hpieces : Identifier.splitWhere (· == '/') t.toList = [t.toList] :=
      Identifier.splitWhere_of_all_not fun c hc => beq_false_of_ne fun heq => ht (heq ▸ hc)
    rw [lastSegment, hpieces]
    exact String.ofList_toList
  have hbehind : ∀ (t : String) (front last : List Char), '/' ∉ last →
      t.toList = front ++ '/' :: last → lastSegment t = String.ofList last := by
    intro t front last hlast ht
    have hpieces : Identifier.splitWhere (· == '/') last = [last] :=
      Identifier.splitWhere_of_all_not fun c hc => beq_false_of_ne fun heq => hlast (heq ▸ hc)
    rw [lastSegment, ht, Identifier.splitWhere_append_separator rfl, hpieces, List.getLast?_concat]
  constructor
  · rintro rfl
    by_cases hslash : '/' ∈ target.toList
    · -- The last slash is the first one from the end.
      obtain ⟨back, front, hsplit, hback⟩ :=
        List.eq_append_cons_of_mem (List.mem_reverse.mpr hslash)
      have htarget : target.toList = front.reverse ++ '/' :: back.reverse := by
        rw [← List.reverse_reverse target.toList, hsplit]
        simp
      have hmem : '/' ∉ back.reverse := fun h => hback (List.mem_reverse.mp h)
      rw [hbehind target _ _ hmem htarget, String.toList_ofList]
      exact ⟨hmem, .inr ⟨_, htarget⟩⟩
    · rw [hbare target hslash]
      exact ⟨hslash, .inl rfl⟩
  · rintro ⟨hsegment, rfl | ⟨front, hfront⟩⟩
    · exact hbare target hsegment
    · rw [hbehind target front _ hsegment hfront, String.ofList_toList]

/-- The name of a component is its decoded last segment. -/
theorem toList_of_componentName? {target sectionName name : String} {self : Option String}
    (h : Reference.componentName? target self sectionName = some name) :
    name.toList = Reference.decodeSegment (lastSegment target).toList := by
  unfold Reference.componentName? at h
  split at h
  · next found name' hcomponent =>
    obtain ⟨-, heq⟩ := Option.ite_none_right_eq_some.mp h
    obtain rfl := Option.some.inj heq
    obtain ⟨front, segment, htarget, hslash, hname⟩ :=
      Reference.exists_segment_of_component? hcomponent
    have hsegment : lastSegment target = String.ofList segment := by
      refine lastSegment_eq_iff.mpr ⟨?_, .inr ⟨front, ?_⟩⟩
      · rw [String.toList_ofList]
        intro hmem
        exact absurd (hslash _ hmem) (by simp)
      · rw [htarget, String.toList_ofList]
    rw [hname, hsegment, String.toList_ofList]
  · exact absurd h (by simp)

/-! ## Two ways to follow a reference -/

/-- The name of the scheme that a reference is followed to. -/
def followed? (d : Document) (target : String) : Option String :=
  (some (lastSegment target)).filter (Entries.contains · d.components.securitySchemes)

/-- The name of the scheme that a reference points to by the rules for components. -/
def pointed? (d : Document) (target : String) : Option String :=
  (Reference.componentName? target d.self "securitySchemes").filter
    (Entries.contains · d.components.securitySchemes)

/-- A reference points into the security schemes of a document, to a name that is written without
escapes. -/
def PointsPlainly (d : Document) (target : String) : Prop :=
  (∃ name, Reference.componentName? target d.self "securitySchemes" = some name) ∧
    ¬ Reference.HoldsEscape (lastSegment target).toList

/-- No scheme has the last segment of a reference as its name, and none has the name that the
reference points to. -/
def PointsNowhere (d : Document) (target : String) : Prop :=
  lastSegment target ∉ Entries.keys d.components.securitySchemes ∧
    ∀ name, Reference.componentName? target d.self "securitySchemes" = some name →
      name ∉ Entries.keys d.components.securitySchemes

variable (d : Document) (target : String)

/-- The walk goes on with the scheme that a reference is followed to. -/
theorem followFrom?_reference (hops : Nat) :
    followFrom? d.components.securitySchemes (hops + 1) (.reference target) =
      ((followed? d target).bind (Entries.lookup? · d.components.securitySchemes)).bind
        (followFrom? d.components.securitySchemes hops) := by
  unfold followed?
  rw [followFrom?, Option.filter_some, Entries.contains]
  cases hnext : Entries.lookup? (lastSegment target) d.components.securitySchemes with
  | none => rfl
  | some next => rw [Option.isSome_some, if_pos rfl, Option.bind_some, hnext, Option.bind_some]

variable {d target}

theorem componentName?_eq_lastSegment_iff :
    Reference.componentName? target d.self "securitySchemes" = some (lastSegment target) ↔
      PointsPlainly d target := by
  constructor
  · intro h
    refine ⟨⟨_, h⟩, Reference.decodeSegment_eq_self_iff.mp ?_⟩
    exact (toList_of_componentName? h).symm
  · rintro ⟨⟨name, hname⟩, hplain⟩
    have hdecoded := toList_of_componentName? hname
    rw [Reference.decodeSegment_eq_self_iff.mpr hplain] at hdecoded
    rw [hname, String.toList_inj.mp hdecoded]

theorem followed?_eq_some_iff {name : String} : followed? d target = some name ↔
    lastSegment target = name ∧ name ∈ Entries.keys d.components.securitySchemes := by
  rw [followed?, Option.filter_eq_some_iff, Entries.contains_iff, Option.some.injEq]

theorem pointed?_eq_some_iff {name : String} : pointed? d target = some name ↔
    Reference.componentName? target d.self "securitySchemes" = some name ∧
      name ∈ Entries.keys d.components.securitySchemes := by
  rw [pointed?, Option.filter_eq_some_iff, Entries.contains_iff]

theorem followed?_eq_none_iff : followed? d target = none ↔
    lastSegment target ∉ Entries.keys d.components.securitySchemes := by
  simp [Option.eq_none_iff_forall_ne_some, followed?_eq_some_iff]

theorem pointed?_eq_none_iff : pointed? d target = none ↔
    ∀ name, Reference.componentName? target d.self "securitySchemes" = some name →
      name ∉ Entries.keys d.components.securitySchemes := by
  simp [Option.eq_none_iff_forall_ne_some, pointed?_eq_some_iff]

/-- The walk over references steps to the scheme to which the reference is followed, and this is the
scheme that it points to exactly when it points to a name without escapes, or to no scheme while no
scheme is named like its last segment. -/
theorem followed?_eq_pointed?_iff (d : Document) (target : String) :
    (∀ hops, followFrom? d.components.securitySchemes (hops + 1) (.reference target) =
      ((followed? d target).bind (Entries.lookup? · d.components.securitySchemes)).bind
        (followFrom? d.components.securitySchemes hops)) ∧
    (followed? d target = pointed? d target ↔ PointsPlainly d target ∨ PointsNowhere d target) := by
  refine ⟨followFrom?_reference d target, ?_⟩
  by_cases hlast : lastSegment target ∈ Entries.keys d.components.securitySchemes
  · have hfollowed : followed? d target = some (lastSegment target) :=
      followed?_eq_some_iff.mpr ⟨rfl, hlast⟩
    have hsomewhere : ¬ PointsNowhere d target := fun h => h.1 hlast
    rw [hfollowed, eq_comm, pointed?_eq_some_iff, componentName?_eq_lastSegment_iff]
    simp [hlast, hsomewhere]
  · rw [followed?_eq_none_iff.mpr hlast, eq_comm, pointed?_eq_none_iff]
    constructor
    · intro h
      exact .inr ⟨hlast, h⟩
    · rintro (hplain | hnowhere)
      · intro name hname
        rw [componentName?_eq_lastSegment_iff.mpr hplain] at hname
        exact Option.some.inj hname ▸ hlast
      · exact hnowhere.2

/-- Two keys, a reference into another document and a reference with an escaped slash. -/
def strayReferences : Document :=
  { components :=
      { securitySchemes :=
          [("key", .inline { schemeType := "apiKey", name := some "X-Key" }),
            ("a/b", .inline { schemeType := "apiKey", name := some "X-Other" }),
            ("foreign", .reference "other.yaml#/components/securitySchemes/key"),
            ("alias", .reference "#/components/securitySchemes/a~1b")] } }

/-- A reference into another document is followed to the scheme of the same name here, though it
points to none here; a reference to an escaped name is not followed, though it points to a scheme. -/
theorem followed?_ne_pointed?_strayReferences :
    followed? strayReferences "other.yaml#/components/securitySchemes/key" = some "key" ∧
    pointed? strayReferences "other.yaml#/components/securitySchemes/key" = none ∧
    (follow? strayReferences.components.securitySchemes
      (.reference "other.yaml#/components/securitySchemes/key")).isSome = true ∧
    followed? strayReferences "#/components/securitySchemes/a~1b" = none ∧
    pointed? strayReferences "#/components/securitySchemes/a~1b" = some "a/b" ∧
    (follow? strayReferences.components.securitySchemes
      (.reference "#/components/securitySchemes/a~1b")).isSome = false := by
  decide +kernel

end SecurityScheme
end ApiResolution
