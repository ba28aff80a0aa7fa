import ApiResolution.Proofs.Model.Options
import ApiResolution.Proofs.Model.Stages

/-!
What operations see of models. An operation asks of the model of its payload whether it is one, and
for its discriminator; both come from the schema of the name whatever the options are
(`shownAt_withOptions`). A model that was made for a union has no discriminator
(`shownAt_of_undefined`).
-/

namespace ApiResolution

namespace Model

/-- The discriminator of a model, if it is not only another word for a type. -/
def shown? (m : Model) : Option (Option Discriminator) :=
  if m.isAlias then none else some m.discriminator

theorem isAlias_ofSchema (c : Context) (name : String) (s : Schema) :
    (ofSchema c name s).value.value.isAlias = c.isAlias name := by
  have hdescribed : (described c s (annotated c name s)).value.value.isAlias = c.isAlias name := by
    rcases s with ⟨a, shape⟩
    unfold described
    cases shape with
    | array items => rfl
    | map value ps rs => rfl
    | composed allOf oneOf anyOf ps rs =>
      dsimp only
      rw [value_withBranches]
      rfl
    | _ =>
      dsimp only
      rw [value_withType]
      rfl
  rw [value_ofSchema]
  exact hdescribed

@[simp] theorem adoptedDiscriminator?_withOptions (c : Context) (o : Options) (s : Schema) :
    adoptedDiscriminator? (c.withOptions o) s = adoptedDiscriminator? c s := by
  simp only [adoptedDiscriminator?, branchDiscriminator?, Context.dereference_withOptions]

end Model

namespace ModelMap

/-- The discriminator of the model of a name, if it is not only another word for a type. -/
def shownAt (models : ModelMap) (name : String) : Option (Option Discriminator) :=
  ((Entries.lookup? name models).map Model.shown?).join

/-- The later stages change nothing of what is shown. -/
theorem shownAt_ofDocument (c : Context) (name : String) :
    shownAt (ofDocument c).value name = shownAt (ofSchemas c).value name := by
  have hdropped : ∀ models : ModelMap,
      shownAt (dropInheritedEnums models) name = shownAt models name := by
    intro models
    have hview := Entries.lookup?_foldl_modify Model.shown? (fun e : String × List String => e.1)
      (fun e => Model.dropVars e.2) (fun _ _ => rfl)
    have hlookup : (Entries.lookup? name (dropInheritedEnums models)).map Model.shown? =
        (Entries.lookup? name models).map Model.shown? := hview _ _ _
    rw [shownAt, shownAt, hlookup]
  have hnamed : ∀ models : ModelMap, shownAt (Entries.mapValues
      (Model.nameEnums c.conventions) models) name = shownAt models name := by
    intro models
    rw [shownAt, Entries.lookup?_mapValues, Option.map_map]
    rfl
  rw [value_ofDocument, hdropped, hnamed]
  split
  · rw [shownAt, lookup?_link, Option.map_map]
    rfl
  · rfl

/-- What is shown of the model of a schema. -/
theorem shownAt_of_schema {c : Context} (hd : (Entries.keys c.schemas).Nodup) {name : String}
    {s : Schema} (hs : c.schema? name = some s) :
    shownAt (ofDocument c).value name =
      if c.isAlias name then none
      else some (s.discriminator.or (Model.adoptedDiscriminator? c s)) := by
  rw [shownAt_ofDocument, shownAt, lookup?_ofSchemas hd, hs, Option.map_some, Option.some_or,
    Option.map_some, Option.join_some, Model.shown?, Model.isAlias_ofSchema,
    Model.discriminator_ofSchema]

/-- What is shown of the model of a schema does not depend on the options. -/
theorem shownAt_withOptions {c : Context} (hd : (Entries.keys c.schemas).Nodup) (o : Options)
    {name : String} (hs : c.schema? name ≠ none) :
    shownAt (ofDocument (c.withOptions o)).value name = shownAt (ofDocument c).value name := by
  obtain ⟨s, hs⟩ := Option.ne_none_iff_exists'.mp hs
  rw [shownAt_of_schema hd hs, shownAt_of_schema (c := c.withOptions o) hd hs,
    Model.adoptedDiscriminator?_withOptions]
  rfl

/-- A name without a schema shows no discriminator. -/
theorem shownAt_of_undefined {c : Context} (hd : (Entries.keys c.schemas).Nodup) {name : String}
    (hs : c.schema? name = none) {shown : Option Discriminator}
    (h : shownAt (ofDocument c).value name = some shown) : shown = none := by
  rw [shownAt_ofDocument] at h
  obtain ⟨m, hm, hshown⟩ := Option.map_eq_some_iff.mp (Option.join_eq_some_iff.mp h)
  rcases schema_or_union hd hm with ⟨s, hdefined, -⟩ | ⟨-, hu, -⟩
  · rw [hs] at hdefined
    exact absurd hdefined (by simp)
  · obtain ⟨n, branches, ho⟩ := exists_ofUnion? hu
    obtain ⟨-, -, -, -, -, -, hnone, -⟩ := Model.of_ofUnion? ho
    rw [Model.shown?] at hshown
    split at hshown
    · exact absurd hshown (by simp)
    · rw [← Option.some.inj hshown, hnone]

end ModelMap
end ApiResolution
