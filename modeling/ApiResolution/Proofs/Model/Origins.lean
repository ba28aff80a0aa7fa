import ApiResolution.Proofs.Model.Members
import ApiResolution.Proofs.Model.Stages
import ApiResolution.Proofs.Resolution

/-!
Where the properties of the models of a document come from: each is settled as a member that the
schema of the model lists or collects, or as the property of the schema as a whole. A model made for
a union has none. `exists_union_model` says what stands under the name of a union.
-/

namespace ApiResolution
namespace Model

/-- Conventions that leave finished members as they are. -/
def KeepsMembers (v : Conventions) : Prop := ∀ m p, v.finishProperty m p = p

theorem settled_vars_ofSchema {c : Context} (hv : KeepsMembers c.conventions) (name : String)
    (s : Schema) :
    (ofSchema c name s).value.value.vars.map Property.settled =
      (members c name (listedMembers c name s)).value.value.map Property.settled := by
  have hvars : ∀ m : Model, (finish c.conventions m).vars = Property.markHasMore
      (m.vars.map (c.conventions.finishProperty { m with vars := [] })) := fun _ => rfl
  rw [value_ofSchema]
  dsimp only
  rw [hvars, Property.map_settled_markHasMore, ← (describes_described c name s).vars]
  congr 1
  exact (List.map_congr_left fun p _ => hv _ p).trans (List.map_id' _)

theorem settled_allVars_ofSchema (c : Context) (name : String) (s : Schema) :
    (ofSchema c name s).value.value.allVars.map Property.settled =
      (members c name (allMembers c name s)).value.value.map Property.settled := by
  have hvars : ∀ m : Model, (finish c.conventions m).allVars = Property.markHasMore m.allVars :=
    fun _ => rfl
  rw [value_ofSchema]
  dsimp only
  rw [hvars, Property.map_settled_markHasMore, ← (describes_described c name s).allVars]

theorem container_ofSchema (c : Context) (name : String) (s : Schema) :
    (ofSchema c name s).value.value.containerProperty = wholeProperty? c name s :=
  (describes_described c name s).container

theorem exists_of_settled_mem_members {c : Context} {name : String} {ms : Members}
    {q p : Property} (hq : q ∈ (members c name ms).value.value) (hp : q.settled = p.settled) :
    ∃ e ∈ ms.properties, (member c name ms.required e.1 e.2).value.value.settled = p.settled := by
  rw [vars_members] at hq
  obtain ⟨e, he, rfl⟩ := List.mem_map.mp hq
  exact ⟨e, he, hp⟩

end Model

namespace ModelMap

open Model

variable {c : Context} {name : String} {m : Model} {p : Property}

theorem exists_listed_of_mem_vars (hd : c.document.DistinctSchemas)
    (hv : KeepsMembers c.conventions) (h : Entries.lookup? name (ofDocument c).value = some m)
    (hp : p ∈ m.vars) :
    ∃ s, c.schema? name = some s ∧ ∃ e ∈ (listedMembers c name s).properties, ∃ required,
      (Model.member c name required e.1 e.2).value.value.settled = p.settled := by
  obtain ⟨before, hb, hkeeps⟩ := keeps_ofDocument h
  obtain ⟨q, hq, hqp⟩ := hkeeps.exists_var hp
  rcases schema_or_union hd hb with ⟨s, hs, rfl⟩ | ⟨-, hu, -⟩
  · have hmem : q.settled ∈ (members c name (listedMembers c name s)).value.value.map
        Property.settled := by
      rw [← settled_vars_ofSchema hv]
      exact List.mem_map_of_mem hq
    obtain ⟨q', hq', hqq⟩ := List.mem_map.mp hmem
    obtain ⟨e, he, hep⟩ := exists_of_settled_mem_members hq' (hqq.trans hqp)
    exact ⟨s, hs, e, he, _, hep⟩
  · obtain ⟨n, branches, ho⟩ := exists_ofUnion? hu
    rw [(of_ofUnion? ho).2.2.2.2.2.2.2.1] at hq
    simp at hq

theorem exists_collected_of_mem_allVars (hd : c.document.DistinctSchemas)
    (h : Entries.lookup? name (ofDocument c).value = some m) (hp : p ∈ m.allVars) :
    ∃ s, c.schema? name = some s ∧ ∃ e ∈ (allMembers c name s).properties, ∃ required,
      (Model.member c name required e.1 e.2).value.value.settled = p.settled := by
  obtain ⟨before, hb, hkeeps⟩ := keeps_ofDocument h
  obtain ⟨q, hq, hqp⟩ := hkeeps.exists_allVar hp
  rcases schema_or_union hd hb with ⟨s, hs, rfl⟩ | ⟨-, hu, -⟩
  · have hmem : q.settled ∈ (members c name (allMembers c name s)).value.value.map
        Property.settled := by
      rw [← settled_allVars_ofSchema]
      exact List.mem_map_of_mem hq
    obtain ⟨q', hq', hqq⟩ := List.mem_map.mp hmem
    obtain ⟨e, he, hep⟩ := exists_of_settled_mem_members hq' (hqq.trans hqp)
    exact ⟨s, hs, e, he, _, hep⟩
  · obtain ⟨n, branches, ho⟩ := exists_ofUnion? hu
    rw [(of_ofUnion? ho).2.2.2.2.2.2.2.2.1] at hq
    simp at hq

theorem exists_whole_of_container (hd : c.document.DistinctSchemas)
    (h : Entries.lookup? name (ofDocument c).value = some m) (hp : m.containerProperty = some p) :
    ∃ s, c.schema? name = some s ∧ wholeProperty? c name s = some p := by
  obtain ⟨before, hb, hkeeps⟩ := keeps_ofDocument h
  rw [hkeeps.container] at hp
  rcases schema_or_union hd hb with ⟨s, hs, rfl⟩ | ⟨-, hu, -⟩
  · exact ⟨s, hs, (container_ofSchema c name s).symm.trans hp⟩
  · obtain ⟨n, branches, ho⟩ := exists_ofUnion? hu
    rw [(of_ofUnion? ho).2.2.2.2.2.2.2.2.2] at hp
    exact absurd hp (by simp)

/-- Under the name of a named schema stands its model. -/
theorem exists_schema_model (hd : c.document.DistinctSchemas) {s : Schema}
    (hs : c.schema? name = some s) :
    ∃ m, Entries.lookup? name (ofDocument c).value = some m ∧
      Keeps (ofSchema c name s).value.value m ∧ m.className = c.conventions.modelName name := by
  have hl := lookup?_ofSchemas hd name
  rw [hs, Option.map_some, Option.some_or] at hl
  obtain ⟨m, hm, hkeeps⟩ := exists_ofDocument hl
  exact ⟨m, hm, hkeeps, hkeeps.className.trans (className_ofSchema c name s)⟩

/-- Under the name of a union stands the model of the schema of that name, and without one that of
the first union that was given the name. -/
theorem exists_union_model (hd : c.document.DistinctSchemas) {u : Model} (hu : u ∈ unions c) :
    ∃ m, Entries.lookup? u.name (ofDocument c).value = some m ∧
      m.className = c.conventions.modelName u.name ∧
      (∀ s, c.schema? u.name = some s → Keeps (ofSchema c u.name s).value.value m) ∧
      (c.schema? u.name = none → m.isComposed = true ∧
        ∃ first, (unions c).find? (fun u' => u'.name == u.name) = some first ∧
          Keeps first m) := by
  cases hs : c.schema? u.name with
  | some s =>
    obtain ⟨m, hm, hkeeps, hclass⟩ := exists_schema_model hd hs
    refine ⟨m, hm, hclass, ?_, by simp⟩
    rintro s' ⟨⟩
    exact hkeeps
  | none =>
    have hl := lookup?_ofSchemas hd u.name
    rw [hs, Option.map_none, Option.none_or] at hl
    have hsome : ((unions c).find? fun u' => u'.name == u.name).isSome = true :=
      List.find?_isSome.mpr ⟨u, hu, by simp⟩
    obtain ⟨first, hfirst⟩ := Option.isSome_iff_exists.mp hsome
    obtain ⟨m, hm, hkeeps⟩ := exists_ofDocument (hl.trans hfirst)
    obtain ⟨n, branches, ho⟩ := exists_ofUnion? (List.mem_of_find?_eq_some hfirst)
    have hname : first.name = u.name := by simpa using List.find?_some hfirst
    have hof := of_ofUnion? ho
    refine ⟨m, hm, ?_, by simp, fun _ => ⟨hkeeps.isComposed.trans hof.2.2.1, first, hfirst,
      hkeeps⟩⟩
    rw [hkeeps.className, hof.2.1, ← hof.1, hname]

end ModelMap
end ApiResolution
