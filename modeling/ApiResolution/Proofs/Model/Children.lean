import ApiResolution.Proofs.Model.Stages
import ApiResolution.Proofs.Resolution

/-!
The children of models. Resolution registers a model with each ancestor that it reaches over models
without a discriminator, whether their schemas declare one or their models adopt one from a branch.
`mem_children_iff_of_declared` says when this is the same as stopping at declared discriminators
only: no model on the way from the child may have adopted one.
-/

namespace ApiResolution

namespace Context

/-- Whether the schema of a name declares a discriminator itself. -/
def declares (c : Context) (name : String) : Bool :=
  (c.schema? name).any fun s => s.discriminator.isSome

/-- Whether the model of a name has a discriminator that its schema does not declare: it comes from
a branch. -/
def adopts (c : Context) (name : String) : Bool :=
  (c.schema? name).any fun s =>
    s.discriminator.isNone && (Model.adoptedDiscriminator? c s).isSome

end Context

namespace ModelMap

/-! ## What the enums of models leave alone -/

/-- What the links of a model are made of. -/
def linkView (m : Model) : Option String × List String × Option Discriminator :=
  (m.parent, m.children, m.discriminator)

theorem linkView_dropInheritedEnums (models : ModelMap) (name : String) :
    (Entries.lookup? name (dropInheritedEnums models)).map linkView =
      (Entries.lookup? name models).map linkView :=
  Entries.lookup?_foldl_modify linkView (fun e : String × List String => e.1)
    (fun e => Model.dropVars e.2) (fun _ _ => rfl) _ _ _

theorem linkView_enums (v : Conventions) (models : ModelMap) (name : String) :
    (Entries.lookup? name
        (dropInheritedEnums (Entries.mapValues (Model.nameEnums v) models))).map linkView =
      (Entries.lookup? name models).map linkView := by
  rw [linkView_dropInheritedEnums, Entries.lookup?_mapValues, Option.map_map]
  rfl

/-! ## The models of a document under inheritance -/

theorem linkView_ofDocument {c : Context} (hi : c.options.supportsInheritance = true)
    (name : String) :
    (Entries.lookup? name (ofDocument c).value).map linkView =
      (Entries.lookup? name (link (ofSchemas c).value).value).map linkView := by
  rw [value_ofDocument, if_pos hi, linkView_enums]

theorem parentOf?_ofDocument {c : Context} (hi : c.options.supportsInheritance = true)
    (name : String) :
    parentOf? (ofDocument c).value name = parentOf? (ofSchemas c).value name := by
  have h := congrArg (·.bind fun l => l.1) (linkView_ofDocument hi name)
  simp only [Option.bind_map, Function.comp_def, linkView, lookup?_link] at h
  exact h

theorem name_ofSchemas {c : Context} (hd : c.document.DistinctSchemas) {name : String} {m : Model}
    (h : Entries.lookup? name (ofSchemas c).value = some m) : m.name = name := by
  rcases schema_or_union hd h with ⟨s, -, rfl⟩ | ⟨-, -, hn⟩
  · exact Model.name_ofSchema c name s
  · exact hn

theorem children_ofSchemas {c : Context} (hd : c.document.DistinctSchemas) {name : String}
    {m : Model} (h : Entries.lookup? name (ofSchemas c).value = some m) : m.children = [] := by
  rcases schema_or_union hd h with ⟨s, -, rfl⟩ | ⟨-, hu, -⟩
  · exact Model.children_ofSchema c name s
  · obtain ⟨n, branches, ho⟩ := exists_ofUnion? hu
    exact (Model.of_ofUnion? ho).2.2.2.2.2.1

/-- A model has a discriminator exactly when its schema declares one or it adopts one. -/
theorem discriminatorOf?_ofSchemas_eq_none_iff {c : Context} (hd : c.document.DistinctSchemas)
    (name : String) :
    discriminatorOf? (ofSchemas c).value name = none ↔
      c.declares name = false ∧ c.adopts name = false := by
  have hl := lookup?_ofSchemas hd name
  unfold discriminatorOf? Context.declares Context.adopts
  cases hs : c.schema? name with
  | some s =>
    rw [hs, Option.map_some, Option.some_or] at hl
    rw [hl, Option.bind_some, Model.discriminator_ofSchema, Option.or_eq_none_iff]
    simp only [Option.any_some, Bool.and_eq_false_iff, Option.isSome_eq_false_iff,
      Option.isNone_eq_false_iff, Option.isNone_iff_eq_none]
    refine and_congr_right fun hn => ?_
    rw [hn]
    simp
  | none =>
    rw [hs, Option.map_none, Option.none_or] at hl
    rw [hl]
    cases hu : (unions c).find? fun u => u.name == name with
    | none => simp
    | some u =>
      obtain ⟨n, branches, ho⟩ := exists_ofUnion? (List.mem_of_find?_eq_some hu)
      simp [(Model.of_ofUnion? ho).2.2.2.2.2.2.1]

theorem lineage_ofDocument_iff {c : Context} (hi : c.options.supportsInheritance = true)
    {child top : String} {between : List String} :
    Lineage (ofDocument c).value child between top ↔
      Lineage (ofSchemas c).value child between top := by
  have hk := keys_ofDocument c
  have hp := parentOf?_ofDocument hi
  exact ⟨fun h => ⟨h.climb.congr hk hp, h.nodup⟩,
    fun h => ⟨h.climb.congr hk.symm fun name => (hp name).symm, h.nodup⟩⟩

/-- A model is a child of those ancestors that it reaches over models whose schemas declare no
discriminator and that adopted none. -/
theorem mem_children_iff {c : Context} (hd : c.document.DistinctSchemas)
    (hi : c.options.supportsInheritance = true) (child : String) {top : String} {p : Model}
    (hp : Entries.lookup? top (ofDocument c).value = some p) :
    child ∈ p.children ↔ ∃ between, Lineage (ofDocument c).value child between top ∧
      ∀ b ∈ between, c.declares b = false ∧ c.adopts b = false := by
  have hview := linkView_ofDocument hi top
  rw [hp, Option.map_some] at hview
  obtain ⟨m, hm, hmp⟩ := Option.map_eq_some_iff.mp hview.symm
  have hchildren : m.children = p.children := congrArg (fun l => l.2.1) hmp
  rw [← hchildren, mem_children_link_iff (nodup_keys_ofSchemas c)
    (fun name m => name_ofSchemas hd) (fun name m => children_ofSchemas hd) hm]
  simp only [lineage_ofDocument_iff hi, discriminatorOf?_ofSchemas_eq_none_iff hd]

end ModelMap

namespace Resolution

/-- The children of a model under inheritance. They follow the declared discriminators, that is a
model is a child of those ancestors that it reaches over models whose schemas declare none, exactly
when it reaches no such ancestor over a model that adopted a discriminator from a branch. -/
theorem mem_children_iff_of_declared {o : Options} {v : Conventions} {d : Document} {r : Resolution}
    (hd : d.DistinctSchemas) (hi : o.supportsInheritance = true) (h : ofDocument o v d = .ok r)
    {parent child : String} {p : Model} (hp : Entries.lookup? parent r.models = some p) :
    (child ∈ p.children ↔ ∃ between, ModelMap.Lineage r.models child between parent ∧
        ∀ b ∈ between, (context o v d).declares b = false ∧ (context o v d).adopts b = false) ∧
      ((child ∈ p.children ↔ ∃ between, ModelMap.Lineage r.models child between parent ∧
          ∀ b ∈ between, (context o v d).declares b = false) ↔
        ¬ ∃ between, ModelMap.Lineage r.models child between parent ∧
          (∀ b ∈ between, (context o v d).declares b = false) ∧
          ∃ b ∈ between, (context o v d).adopts b = true) := by
  have hmade := of_ofDocument h
  rw [hmade.models] at hp ⊢
  have hmem := ModelMap.mem_children_iff (distinctSchemas_context o v hd) hi child hp
  refine ⟨hmem, ?_⟩
  rw [hmem]
  constructor
  · rintro hiff ⟨between, hl, hu, b, hb, hadopts⟩
    obtain ⟨others, hl', hu'⟩ := hiff.mpr ⟨between, hl, hu⟩
    rw [hl'.unique hl] at hu'
    exact absurd ((hu' b hb).2.symm.trans hadopts) (by simp)
  · intro hnone
    constructor
    · rintro ⟨between, hl, hu⟩
      exact ⟨between, hl, fun b hb => (hu b hb).1⟩
    · rintro ⟨between, hl, hu⟩
      refine ⟨between, hl, fun b hb => ⟨hu b hb, ?_⟩⟩
      rw [← Bool.not_eq_true]
      exact fun hadopts => hnone ⟨between, hl, hu, b, hb, hadopts⟩

/-- An animal with a discriminator, a pet that is an animal, and a cat that is a pet. -/
def petChain : Document :=
  { components := { schemas := [
      ("Animal", { shape := .object [] [], discriminator := some ⟨"kind", []⟩ }),
      ("Pet", .ofShape (.composed [.reference "#/components/schemas/Animal"] [] [] [] [])),
      ("Cat", .ofShape (.composed [.reference "#/components/schemas/Pet"] [] [] [] []))] } }

theorem mem_children_petChain :
    ∃ r p, ofDocument { supportsInheritance := true } (.neutral false) petChain = .ok r ∧
      Entries.lookup? "Animal" r.models = some p ∧
      ("Pet" ∈ p.children ↔ ∃ between, ModelMap.Lineage r.models "Pet" between "Animal" ∧
        ∀ b ∈ between,
          (context { supportsInheritance := true } (.neutral false) petChain).declares b = false ∧
            (context { supportsInheritance := true } (.neutral false) petChain).adopts b =
              false) := by
  have hsome : (model? { supportsInheritance := true } (.neutral false) petChain
      "Animal").isSome := by decide +kernel
  obtain ⟨p, hp⟩ := Option.isSome_iff_exists.mp hsome
  obtain ⟨r, hr, hl⟩ := exists_of_model? hp
  exact ⟨r, p, hr, hl, (mem_children_iff_of_declared (by decide) rfl hr hl).1⟩

/-- The pet adopts the discriminator of the animal, so the cat is no child of the animal although no
schema between them declares a discriminator. -/
theorem not_mem_children_petChain :
    ∃ r p, ofDocument { supportsInheritance := true } (.neutral false) petChain = .ok r ∧
      Entries.lookup? "Animal" r.models = some p ∧ "Cat" ∉ p.children ∧
      ModelMap.Lineage r.models "Cat" ["Pet"] "Animal" ∧
      ∀ b ∈ ["Pet"],
        (context { supportsInheritance := true } (.neutral false) petChain).declares b = false := by
  have hchildren : (model? { supportsInheritance := true } (.neutral false) petChain
      "Animal").map (·.children) = some ["Pet"] := by decide +kernel
  obtain ⟨p, hp, hpc⟩ := Option.map_eq_some_iff.mp hchildren
  obtain ⟨r, hr, hl⟩ := exists_of_model? hp
  have hmodel : ∀ name, model? { supportsInheritance := true } (.neutral false) petChain name =
      Entries.lookup? name r.models := fun name => by simp [model?, hr]
  have hcat : ModelMap.parentOf? r.models "Cat" = some "Pet" := by
    rw [ModelMap.parentOf?, ← hmodel]
    decide +kernel
  have hpet : ModelMap.parentOf? r.models "Pet" = some "Animal" := by
    rw [ModelMap.parentOf?, ← hmodel]
    decide +kernel
  refine ⟨r, p, hr, hl, by simp [hpc], ⟨.step hcat (.direct hpet ?_), by decide⟩, by decide⟩
  exact Entries.mem_keys_of_lookup? hl

end Resolution
end ApiResolution
