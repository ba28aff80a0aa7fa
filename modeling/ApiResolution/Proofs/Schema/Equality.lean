import ApiResolution.Proofs.Entries
import ApiResolution.Proofs.Schema.Object
import ApiResolution.Schema.Equality

/-!
What equal schemas share. Each part of one of two equal schemas is equal to a part of the other
(`exists_same_of_mem_parts`), so a property that equal annotations have together is one that equal
schemas have together at every level (`every_of_same`).
-/

namespace ApiResolution

/-- Neither the default nor the example is null. -/
def Annotations.NoNull (a : Annotations) : Prop :=
  a.defaultValue ≠ some .null ∧ a.exampleValue ≠ some .null

theorem eq_of_sameOption_null {x : Option Json}
    (h : sameOption Json.same (some .null) x = true) : x = some .null := by
  rcases x with _ | j
  · exact absurd h (by simp [sameOption])
  · cases j with
    | null => rfl
    | _ => exact absurd h (by simp [sameOption, Json.same])

theorem Annotations.noNull_of_same {a b : Annotations} (h : a.same b = true) (hb : b.NoNull) :
    a.NoNull := by
  simp only [same, Bool.and_eq_true] at h
  have hdefault : sameOption Json.same a.defaultValue b.defaultValue = true := by simp only [h]
  have hexample : sameOption Json.same a.exampleValue b.exampleValue = true := by simp only [h]
  refine ⟨fun hnull => hb.1 ?_, fun hnull => hb.2 ?_⟩
  · exact eq_of_sameOption_null (hnull ▸ hdefault)
  · exact eq_of_sameOption_null (hnull ▸ hexample)

namespace Schema

theorem same_iff {s t : Schema} : same s t = true ↔
    s.toAnnotations.same t.toAnnotations = true ∧ sameShape s.shape t.shape = true := by
  rcases s with ⟨a, shape⟩
  unfold same
  exact Bool.and_eq_true_iff

theorem exists_same_of_mem_list {ss ts : List Schema} (h : sameList ss ts = true) {s : Schema}
    (hs : s ∈ ss) : ∃ t ∈ ts, same s t = true := by
  induction ss generalizing ts with
  | nil => simp at hs
  | cons first ss ih =>
    cases ts with
    | nil => exact absurd h (by simp [sameList])
    | cons t ts =>
      rw [sameList, Bool.and_eq_true] at h
      rcases List.mem_cons.mp hs with rfl | hs
      · exact ⟨t, List.mem_cons_self, h.1⟩
      · obtain ⟨u, hu, hsame⟩ := ih h.2 hs
        exact ⟨u, List.mem_cons_of_mem _ hu, hsame⟩

theorem exists_same_of_mem_properties {ps qs : List (String × Schema)}
    (h : sameProperties ps qs = true) {s : Schema} (hs : s ∈ ps.map (·.2)) :
    ∃ t ∈ qs.map (·.2), same s t = true := by
  induction ps with
  | nil => simp at hs
  | cons p ps ih =>
    rcases p with ⟨k, first⟩
    rw [sameProperties, Bool.and_eq_true] at h
    rcases List.mem_cons.mp hs with rfl | hs
    · cases hl : Entries.lookup? k qs with
      | none => exact absurd h.1 (by simp [hl])
      | some t =>
        rw [hl] at h
        exact ⟨t, List.mem_map_of_mem (Entries.mem_of_lookup? hl), h.1⟩
    · exact ih h.2 hs

theorem exists_same_of_mem_part {x y : Option Schema} (h : samePart x y = true) {s : Schema}
    (hs : s ∈ x.toList) : ∃ t ∈ y.toList, same s t = true := by
  obtain rfl := Option.mem_toList.mp hs
  cases y with
  | none => exact absurd h (by simp [samePart])
  | some t =>
    rw [samePart] at h
    exact ⟨t, List.mem_cons_self, h⟩

/-- A part of a schema is equal to a part of any equal schema. -/
theorem exists_same_of_mem_parts {shape other : Shape Schema} (h : sameShape shape other = true)
    {s : Schema} (hs : s ∈ shape.parts) : ∃ t ∈ other.parts, same s t = true := by
  cases shape with
  | array items =>
    cases other <;> simp only [sameShape, Bool.false_eq_true] at h
    exact exists_same_of_mem_part h hs
  | map value ps rs =>
    cases other <;> simp only [sameShape, Bool.false_eq_true, Bool.and_eq_true] at h
    rcases List.mem_append.mp hs with hs | hs
    · obtain ⟨t, ht, hsame⟩ := exists_same_of_mem_part h.1.1.1 hs
      exact ⟨t, List.mem_append_left _ ht, hsame⟩
    · obtain ⟨t, ht, hsame⟩ := exists_same_of_mem_properties h.1.2 hs
      exact ⟨t, List.mem_append_right _ ht, hsame⟩
  | object ps rs =>
    cases other <;> simp only [sameShape, Bool.false_eq_true, Bool.and_eq_true] at h
    exact exists_same_of_mem_properties h.1.2 hs
  | composed allOf oneOf anyOf ps rs =>
    cases other <;> simp only [sameShape, Bool.false_eq_true, Bool.and_eq_true] at h
    simp only [Shape.parts, List.mem_append] at hs ⊢
    rcases hs with ((hs | hs) | hs) | hs
    · obtain ⟨t, ht, hsame⟩ := exists_same_of_mem_list h.1.1.1.1.1 hs
      exact ⟨t, .inl (.inl (.inl ht)), hsame⟩
    · obtain ⟨t, ht, hsame⟩ := exists_same_of_mem_list h.1.1.1.1.2 hs
      exact ⟨t, .inl (.inl (.inr ht)), hsame⟩
    · obtain ⟨t, ht, hsame⟩ := exists_same_of_mem_list h.1.1.1.2 hs
      exact ⟨t, .inl (.inr ht), hsame⟩
    · obtain ⟨t, ht, hsame⟩ := exists_same_of_mem_properties h.1.2 hs
      exact ⟨t, .inr ht, hsame⟩
  | _ => exact absurd hs List.not_mem_nil

/-- What equal annotations have together, equal schemas have together at every level. -/
theorem every_of_same {p : Annotations → Prop} (hp : ∀ {a b}, a.same b = true → p b → p a)
    {s t : Schema} (h : same s t = true) (ht : t.Every fun u => p u.toAnnotations) :
    s.Every fun u => p u.toAnnotations := by
  induction ht generalizing s with
  | node here _ ih =>
    rw [same_iff] at h
    refine .node (hp h.1 here) fun u hu => ?_
    obtain ⟨v, hv, hsame⟩ := exists_same_of_mem_parts h.2 hu
    exact ih v hv hsame

end Schema
end ApiResolution
