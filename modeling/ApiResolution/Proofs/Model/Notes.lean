import ApiResolution.Proofs.Diagnostic
import ApiResolution.Proofs.Model.Construction

/-!
What is noted while models are made. Whatever the property of a member notes, be the member listed
by its schema or collected for it, is noted for the model of the schema and so for the document; the
same goes for the property of an array or a map as a whole.
-/

namespace ApiResolution
namespace Model

variable {c : Context} {name : String} {s : Schema}

theorem notes_member (c : Context) (model : String) (required : List String) (name : String)
    (s : Schema) :
    (member c model required name s).notes = (Property.ofSchema c name s).notes := by
  simp only [member, Noted.notes_bind, Noted.notes_pure, List.append_nil]

theorem notes_subset_members (c : Context) (model : String) {ms : Members} {e : String × Schema}
    (he : e ∈ ms.properties) :
    (Property.ofSchema c e.1 e.2).notes ⊆ (members c model ms).notes := by
  simp only [members, Noted.notes_bind, Noted.notes_pure, List.append_nil]
  rw [← notes_member c model ms.required]
  exact Noted.notes_subset_mapList (f := fun e : String × Schema =>
    member c model ms.required e.1 e.2) he

theorem notes_withContainer (c : Context) (s : Schema) (m : Model) :
    (withContainer c s m).notes = (Property.ofSchema c m.name s).notes := by
  simp only [withContainer, Noted.notes_bind, Noted.notes_pure, List.append_nil]

/-- What the members of a combination note, its own ones and under inheritance all of them, is noted
for the combination. -/
theorem notes_subset_withBranches (c : Context) (allOf oneOf : List Schema) (s : Schema) {m : Model}
    (hm : m.name = name) :
    (members c name (ownMembers c name allOf s)).notes ⊆ (withBranches c allOf oneOf s m).notes ∧
      (c.options.composition = .inheritance →
        (members c name ((inheritedMembers c name allOf).add
          (ownMembers c name allOf s).properties (ownMembers c name allOf s).required)).notes ⊆
            (withBranches c allOf oneOf s m).notes) := by
  subst hm
  constructor
  · simp only [withBranches, Noted.notes_bind]
    exact fun n hn => List.mem_append_right _ (List.mem_append_left _ hn)
  · intro hi
    simp only [withBranches, Noted.notes_bind, if_pos hi]
    exact fun n hn => List.mem_append_right _ (List.mem_append_right _
      (List.mem_append_left _ hn))

theorem notes_subset_withType {ps : Entries Schema} (hps : s.properties? = some ps) {m : Model}
    (hm : m.name = name) :
    (members c name ⟨ps, s.required⟩).notes ⊆ (withType c s m).notes := by
  subst hm
  simp only [withType, Noted.notes_bind, hps]
  exact fun n hn => List.mem_append_right _ (List.mem_append_left _ hn)

theorem notes_ofSchema (c : Context) (name : String) (s : Schema) :
    (ofSchema c name s).notes = (described c s (annotated c name s)).notes := by
  simp only [ofSchema, Noted.notes_bind, Noted.notes_pure, List.append_nil]

/-- What a listed member notes is noted for the model. -/
theorem notes_subset_of_listed {e : String × Schema}
    (he : e ∈ (listedMembers c name s).properties) :
    (Property.ofSchema c e.1 e.2).notes ⊆ (ofSchema c name s).notes := by
  rw [notes_ofSchema]
  have hmembers := notes_subset_members c name he
  have hm : (annotated c name s).name = name := rfl
  rcases s with ⟨a, shape⟩
  generalize annotated c name ⟨a, shape⟩ = m at hm ⊢
  unfold listedMembers at he hmembers
  cases shape with
  | composed allOf oneOf anyOf ps rs =>
    exact List.Subset.trans hmembers (notes_subset_withBranches c allOf oneOf _ hm).1
  | map value ps rs =>
    subst hm
    simp only [described, Noted.notes_bind]
    exact fun n hn => List.mem_append_right _ (List.mem_append_left _ (hmembers hn))
  | object ps rs => exact List.Subset.trans hmembers (notes_subset_withType rfl hm)
  | _ => exact absurd he (by simp [Schema.properties?, Shape.properties?])

/-- What a collected member notes is noted for the model. -/
theorem notes_subset_of_collected {e : String × Schema}
    (he : e ∈ (allMembers c name s).properties) :
    (Property.ofSchema c e.1 e.2).notes ⊆ (ofSchema c name s).notes := by
  rw [notes_ofSchema]
  have hmembers := notes_subset_members c name he
  have hm : (annotated c name s).name = name := rfl
  rcases s with ⟨a, shape⟩
  generalize annotated c name ⟨a, shape⟩ = m at hm ⊢
  unfold allMembers at he hmembers
  cases shape with
  | composed allOf oneOf anyOf ps rs =>
    dsimp only at he hmembers
    split at he
    · next hi =>
      rw [if_pos hi] at hmembers
      exact List.Subset.trans hmembers ((notes_subset_withBranches c allOf oneOf _ hm).2 hi)
    · simp at he
  | _ => simp at he

/-- What the property of the whole notes is noted for the model. -/
theorem notes_subset_of_whole {p : Property} (hp : wholeProperty? c name s = some p) :
    (Property.ofSchema c name s).notes ⊆ (ofSchema c name s).notes := by
  rw [notes_ofSchema]
  unfold wholeProperty? at hp
  rcases s with ⟨a, shape⟩
  cases shape with
  | array items =>
    simp only [described, Noted.notes_bind, notes_withContainer]
    exact List.subset_append_left _ _
  | map value ps rs =>
    simp only [described, Noted.notes_bind, notes_withContainer]
    exact List.subset_append_left _ _
  | _ => exact absurd hp (by simp [Schema.isArray, Schema.isMap])

end Model

namespace ModelMap

/-- What the model of a named schema notes is noted for the document. -/
theorem notes_subset_ofDocument {c : Context} {name : String} {s : Schema}
    (hs : c.schema? name = some s) :
    (Model.ofSchema c name s).notes ⊆ (ofDocument c).notes := by
  have hbuilt : (Model.ofSchema c name s).notes ⊆ (ofSchemas c).notes := by
    simp only [ofSchemas, Noted.notes_bind, Noted.notes_pure, List.append_nil]
    have hstep := Noted.notes_subset_mapList
      (f := fun e : String × Schema => do return (e.1, ← Model.ofSchema c e.1 e.2))
      (Entries.mem_of_lookup? hs)
    simp only [Noted.notes_bind, Noted.notes_pure, List.append_nil] at hstep
    exact hstep
  refine List.Subset.trans hbuilt ?_
  simp only [ofDocument, Noted.notes_bind]
  exact List.subset_append_left _ _

end ModelMap
end ApiResolution
