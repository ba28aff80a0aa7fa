import ApiResolution.Context
import ApiResolution.Proofs.Entries

/-!
The types of schemas as resolution sees them. Only references and combinations that declare a model
name are tagged with a name (`typeTag_eq_reference`), and no name is only another word for such a
type. What is noted about a type never changes it (`value_typeTag`), and a reference to a name
without a schema is always noted. What holds of a schema and of all named ones holds of what the
schema refers to (`of_dereference`).
-/

namespace ApiResolution

/-- Whether a tag is the keyword of a type that is no container. -/
def TypeTag.isPlain : TypeTag → Bool
  | .array => false
  | .map => false
  | .reference _ => false
  | _ => true

theorem TypeTag.isPlain_ofScalar (type : ScalarType) (format : Option String) :
    (ofScalar type format).isPlain = true := by
  unfold ofScalar ofTextFormat
  cases type with
  | boolean => rfl
  | file => rfl
  | _ =>
    dsimp only
    split <;> rfl

theorem TypeTag.reference?_of_isPlain {tag : TypeTag} (h : tag.isPlain = true) :
    tag.reference? = none := by
  cases tag with
  | reference name => exact absurd h (by simp [isPlain])
  | _ => rfl

namespace Schema

/-- A schema that is tagged with a name is a reference or a combination that declares it. -/
theorem typeTag_eq_reference {self : Option String} {s : Schema} {name : String}
    (h : s.typeTag self = .reference name) :
    (∃ target, s.refTarget? = some target) ∨
      s.isComposed = true ∧ s.extensionText? "x-model-name" = some name := by
  rcases s with ⟨a, shape⟩
  unfold typeTag at h
  cases shape with
  | reference target => exact .inl ⟨target, rfl⟩
  | composed allOf oneOf anyOf ps rs =>
    refine .inr ⟨rfl, ?_⟩
    dsimp only at h
    split at h
    · next declared hdeclared =>
      split at h
      · exact absurd h (by simp)
      · rw [hdeclared, TypeTag.reference.inj h]
    · exact absurd h (by simp)
  | scalar type =>
    have hplain := TypeTag.isPlain_ofScalar type a.format
    rw [show TypeTag.ofScalar type a.format = .reference name from h] at hplain
    exact absurd hplain (by simp [TypeTag.isPlain])
  | _ => exact absurd h (by simp)

/-- A schema that is no container has a plain type or is tagged with a name. -/
theorem isPlain_or_reference (self : Option String) {s : Schema} (ha : s.isArray = false)
    (hm : s.isMap = false) :
    (s.typeTag self).isPlain = true ∨ ∃ name, s.typeTag self = .reference name := by
  rcases s with ⟨a, shape⟩
  unfold typeTag
  cases shape with
  | array items => exact absurd ha (by simp [isArray])
  | map value ps rs => exact absurd hm (by simp [isMap])
  | scalar type => exact .inl (TypeTag.isPlain_ofScalar type _)
  | reference target =>
    dsimp only
    split
    · exact .inl rfl
    · exact .inr ⟨_, rfl⟩
  | composed allOf oneOf anyOf ps rs =>
    dsimp only
    split
    · split
      · exact .inl rfl
      · exact .inr ⟨_, rfl⟩
    · exact .inl rfl
  | _ => exact .inl rfl

end Schema

namespace Context

/-- A name is only another word for plain types. -/
theorem isPlain_of_alias? {c : Context} {name : String} {tag : TypeTag}
    (h : c.alias? name = some tag) : tag.isPlain = true := by
  unfold alias? at h
  obtain ⟨s, -, h⟩ := Option.bind_eq_some_iff.mp h
  unfold Schema.aliasTag? at h
  split at h
  · next type hshape =>
    split at h
    · exact absurd h (by simp)
    · rw [← Option.some.inj h, Schema.typeTag, hshape]
      exact TypeTag.isPlain_ofScalar type _
  · exact absurd h (by simp)

theorem value_typeTag (c : Context) (s : Schema) : (c.typeTag s).value = s.typeTag c.self := by
  unfold typeTag
  cases s.refTarget? with
  | none => rfl
  | some target =>
    cases s.typeTag c.self with
    | reference name =>
      dsimp only
      split <;> rfl
    | _ => rfl

/-- What refers to a name is a reference, tagged with the name. -/
theorem of_refName? {c : Context} {s : Schema} {name : String} (h : c.refName? s = some name) :
    (∃ target, s.refTarget? = some target) ∧ s.typeTag c.self = .reference name := by
  unfold refName? Schema.refName? at h
  split at h
  · next target hshape =>
    refine ⟨⟨target, by rw [Schema.refTarget?, hshape]⟩, ?_⟩
    cases htag : s.typeTag c.self with
    | reference name' =>
      rw [htag] at h
      rw [Option.some.inj h]
    | _ =>
      rw [htag] at h
      exact absurd h (by simp [TypeTag.reference?])
  · exact absurd h (by simp)

/-- A reference to a name without a schema is noted. -/
theorem undefinedSchema_mem_notes_typeTag {c : Context} {s : Schema} {target name : String}
    (hs : s.refTarget? = some target) (ht : s.typeTag c.self = .reference name)
    (hn : c.schema? name = none) : .undefinedSchema name target ∈ (c.typeTag s).notes := by
  unfold typeTag
  rw [hs, ht]
  dsimp only
  rw [hn, Option.isNone_none, if_pos rfl]
  exact List.mem_cons_self

theorem dereference_eq_self {c : Context} {s : Schema} (h : c.refName? s = none) :
    c.dereference s = s := by
  have hend : c.chainEnd? maxHops [] s = some s := by
    rw [maxHops, chainEnd?, h]
  rw [dereference, hend, Option.getD_some]

/-- What holds of a schema and of all named ones holds at the end of its chain of references. -/
theorem of_chainEnd? {c : Context} {p : Schema → Prop} (hc : ∀ e ∈ c.schemas, p e.2) {hops : Nat}
    {seen : List String} {s t : Schema} (hs : p s) (h : c.chainEnd? hops seen s = some t) :
    p t := by
  induction hops generalizing seen s with
  | zero => exact absurd h (by simp [chainEnd?])
  | succ hops ih =>
    rw [chainEnd?] at h
    split at h
    · exact Option.some.inj h ▸ hs
    · split at h
      · exact absurd h (by simp)
      · split at h
        · next target htarget => exact ih (hc _ (Entries.mem_of_lookup? htarget)) h
        · exact absurd h (by simp)

theorem of_dereference {c : Context} {p : Schema → Prop} (hc : ∀ e ∈ c.schemas, p e.2)
    {s : Schema} (hs : p s) : p (c.dereference s) := by
  unfold dereference
  cases h : c.chainEnd? maxHops [] s with
  | none => exact hs
  | some t => exact of_chainEnd? hc hs h

end Context
end ApiResolution
