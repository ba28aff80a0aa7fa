import ApiResolution.Proofs.Document.DistinctNames
import ApiResolution.Proofs.Parameter.Names

/-!
Searches for free names, as loops without a bound. A turn of such a loop passes from a taken name to
the next name. The names of a search are all different, whether their case counts or not, so it
cannot go on for ever among finitely many taken names (`wellFounded_turn`). The two runs of searches,
over the names of schemas and over the parameters of a list, therefore end whatever they meet, at the
names that the bounded searches give (`injective_iterate_and_searches_end`).
-/

namespace ApiResolution

namespace Identifier

/-- A turn of a search: a taken name gives way to the next one. -/
def Turn (taken : String → Prop) (next name : String) : Prop :=
  taken name ∧ next = nextName name

/-- A search ends if from every name on some name is free. -/
theorem wellFounded_turn_of_exists {taken : String → Prop}
    (h : ∀ s, ∃ k, ¬ taken (nextName^[k] s)) : WellFounded (Turn taken) := by
  refine ⟨fun s => ?_⟩
  obtain ⟨k, hfree⟩ := h s
  induction k generalizing s with
  | zero => exact .intro s fun next hturn => absurd hturn.1 hfree
  | succ k ih =>
    refine .intro s fun next hturn => ?_
    rw [hturn.2]
    exact ih (nextName s) hfree

/-- Among finitely many taken names a search ends, in any view of names that tells those of a search
apart. -/
theorem wellFounded_turn {view : String → String}
    (hview : ∀ s, Function.Injective fun k => view (nextName^[k] s)) (taken : Finset String) :
    WellFounded (Turn fun name => view name ∈ taken) := by
  refine wellFounded_turn_of_exists fun s => ?_
  obtain ⟨k, -, hfree⟩ := exists_not_mem_of_injective (hview s) taken.toList
  exact ⟨k, fun hmem => hfree (Finset.mem_toList.mpr hmem)⟩

end Identifier

namespace Parameter

/-- The parameters of a list get names one after the other, each by a search without a bound; `taken`
are the names given before. -/
inductive Renames : List String → List Parameter → List Parameter → Prop
  | done {taken : List String} : Renames taken [] []
  | rename {taken : List String} {p : Parameter} {ps qs : List Parameter} {name : String}
      (hfree : Identifier.FirstFree (· ∈ taken) p.paramName name)
      (hrest : Renames (name :: taken) ps qs) :
      Renames taken (p :: ps) ({ p with paramName := name } :: qs)

/-- Every search ends, at the name that the bounded one finds. -/
theorem renames_renameFrom (taken : List String) (ps : List Parameter) :
    Renames taken ps (renameFrom taken ps) := by
  induction ps generalizing taken with
  | nil => exact .done
  | cons p ps ih =>
    rw [renameFrom]
    have hfree := Identifier.freeFrom_contains_not_mem taken p.paramName
    exact .rename (Identifier.firstFree_freeFrom hfree) (ih _)

end Parameter

namespace Identifier

/-- The names of a search never repeat, in any case. So no search among finitely many taken names
goes on for ever, and each search for the name of a schema or of a parameter ends. -/
theorem injective_iterate_and_searches_end :
    (∀ s, (Function.Injective fun k => nextName^[k] s) ∧
        Function.Injective fun k => Text.toLower (nextName^[k] s)) ∧
      (∀ taken : Finset String, WellFounded (Turn (· ∈ taken)) ∧
        WellFounded (Turn (Text.toLower · ∈ taken))) ∧
      (∀ taken kept names,
        Document.Renames taken kept names (Document.renamesFrom taken kept names)) ∧
      ∀ taken ps, Parameter.Renames taken ps (Parameter.renameFrom taken ps) := by
  refine ⟨fun s => ⟨injective_iterate s, injective_toLower_iterate s⟩, fun taken => ⟨?_, ?_⟩,
    Document.renames_renamesFrom, Parameter.renames_renameFrom⟩
  · exact @wellFounded_turn id injective_iterate taken
  · exact wellFounded_turn injective_toLower_iterate taken

end Identifier
end ApiResolution
