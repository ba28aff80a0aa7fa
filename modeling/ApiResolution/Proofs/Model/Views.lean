import ApiResolution.Proofs.Marks
import ApiResolution.Proofs.Model.Stages
import ApiResolution.Proofs.Property.Enums
import ApiResolution.Proofs.Resolution

/-!
The views of models. A model is `Indexed` when deriving its views again would not change it, and then
its lists of indices and its summaries say what its members imply (`Indexed.views`). Every model is
indexed once its members are finished, whatever was done to them; linking and naming the members of
enums keep it so, and dropping inherited enums derives the views again (`views_ofDocument`).
-/

namespace ApiResolution

namespace Model

/-- A list of indices that holds, in increasing order, those of the properties that satisfy a
test. -/
structure Indexes (is : List Nat) (test : Property → Bool) (ps : List Property) : Prop where
  increasing : is.Pairwise (· < ·)
  mem_iff : ∀ i, i ∈ is ↔ ∃ h : i < ps.length, test ps[i] = true

theorem mem_indicesFrom_iff {test : Property → Bool} {ps : List Property} {start i : Nat} :
    i ∈ indicesFrom start test ps ↔ ∃ j, ∃ h : j < ps.length, i = start + j ∧ test ps[j] = true := by
  induction ps generalizing start with
  | nil => simp [indicesFrom]
  | cons p ps ih =>
    have hmem : i ∈ indicesFrom start test (p :: ps) ↔
        (i = start ∧ test p = true) ∨ i ∈ indicesFrom (start + 1) test ps := by
      rw [indicesFrom]
      split
      · next hp => simp [hp]
      · next hp => simp [hp]
    rw [hmem, ih]
    constructor
    · rintro (⟨rfl, hp⟩ | ⟨j, hj, rfl, hp⟩)
      · exact ⟨0, Nat.succ_pos _, rfl, hp⟩
      · exact ⟨j + 1, Nat.succ_lt_succ hj, by omega, hp⟩
    · rintro ⟨j, hj, rfl, hp⟩
      cases j with
      | zero => exact .inl ⟨rfl, hp⟩
      | succ j => exact .inr ⟨j, Nat.lt_of_succ_lt_succ hj, by omega, hp⟩

theorem pairwise_indicesFrom (start : Nat) (test : Property → Bool) (ps : List Property) :
    (indicesFrom start test ps).Pairwise (· < ·) := by
  induction ps generalizing start with
  | nil => exact .nil
  | cons p ps ih =>
    rw [indicesFrom]
    split
    · refine List.pairwise_cons.mpr ⟨fun i hi => ?_, ih _⟩
      obtain ⟨j, -, rfl, -⟩ := mem_indicesFrom_iff.mp hi
      omega
    · exact ih _

theorem indexes_indices (test : Property → Bool) (ps : List Property) :
    Indexes (indices test ps) test ps where
  increasing := pairwise_indicesFrom 0 test ps
  mem_iff i := by
    rw [indices, mem_indicesFrom_iff]
    constructor
    · rintro ⟨j, hj, rfl, hp⟩
      rw [Nat.zero_add]
      exact ⟨hj, hp⟩
    · rintro ⟨hi, hp⟩
      exact ⟨i, hi, (Nat.zero_add i).symm, hp⟩

/-- The views of a model say of its members what they are. -/
structure Views (m : Model) : Prop where
  required : Indexes m.requiredVars (·.required) m.vars
  optional : Indexes m.optionalVars (!·.required) m.vars
  readOnly : Indexes m.readOnlyVars (·.readOnly) m.vars
  readWrite : Indexes m.readWriteVars (!·.readOnly) m.vars
  hasVars : m.hasVars = true ↔ m.vars ≠ []
  hasRequired : m.hasRequired = true ↔ ∃ p ∈ m.vars, p.required = true
  hasOptional : m.hasOptional = true ↔ ∃ p ∈ m.vars, p.required = false
  hasEnums : m.hasEnums = true ↔ ∃ p ∈ m.vars, p.isEnum = true
  hasOnlyReadOnly : m.hasOnlyReadOnly = true ↔ ∀ p ∈ m.vars, p.readOnly = true

theorem views_reindex (m : Model) : Views (reindex m) where
  required := indexes_indices _ _
  optional := indexes_indices _ _
  readOnly := indexes_indices _ _
  readWrite := indexes_indices _ _
  hasVars := by simp [reindex]
  hasRequired := List.any_eq_true
  hasOptional := by simp [reindex]
  hasEnums := List.any_eq_true
  hasOnlyReadOnly := List.all_eq_true

/-- Deriving the views of a model again would not change it. -/
def Indexed (m : Model) : Prop := reindex m = m

theorem Indexed.views {m : Model} (h : Indexed m) : Views m := h ▸ views_reindex m

theorem Indexed.marked {m : Model} (h : Indexed m) :
    Marked (m.vars.map (·.hasMore)) ∧ Marked (m.allVars.map (·.hasMore)) := by
  rw [← h]
  exact ⟨Property.marked_markHasMore m.vars, Property.marked_markHasMore m.allVars⟩

theorem indexed_reindex (m : Model) : Indexed (reindex m) := by
  have hmarks : ∀ ps, Property.markHasMore (Property.markHasMore ps) = Property.markHasMore ps := by
    intro ps
    rw [Property.markHasMore_eq, Property.markHasMore_eq]
    refine setMarks_setMarks ?_ ps
    exact fun _ _ _ => rfl
  rw [Indexed, reindex, reindex]
  simp only [hmarks]

theorem indicesFrom_map {test : Property → Bool} {f : Property → Property}
    (h : ∀ p, test (f p) = test p) (start : Nat) (ps : List Property) :
    indicesFrom start test (ps.map f) = indicesFrom start test ps := by
  induction ps generalizing start with
  | nil => rfl
  | cons p ps ih => rw [List.map_cons, indicesFrom, indicesFrom, h, ih]

/-- Naming the members of enums changes nothing that the views look at. -/
theorem reindex_nameEnums (v : Conventions) (m : Model) :
    reindex (nameEnums v m) = nameEnums v (reindex m) := by
  have hmarks : ∀ ps : List Property, Property.markHasMore (ps.map (Property.nameIfEnum v)) =
      (Property.markHasMore ps).map (Property.nameIfEnum v) := by
    intro ps
    rw [Property.markHasMore_eq, Property.markHasMore_eq]
    exact setMarks_map (fun more p => Property.nameIfEnum_setHasMore v more p) ps
  have hrequired : ∀ p, (Property.nameIfEnum v p).required = p.required :=
    Property.apply_nameIfEnum (f := (·.required)) Property.required_settled v
  have hreadOnly : ∀ p, (Property.nameIfEnum v p).readOnly = p.readOnly :=
    Property.apply_nameIfEnum (f := (·.readOnly)) Property.readOnly_settled v
  have henum : ∀ p, (Property.nameIfEnum v p).isEnum = p.isEnum :=
    Property.apply_nameIfEnum (f := (·.isEnum)) Property.isEnum_settled v
  unfold reindex nameEnums
  dsimp only
  congr 1
  · exact hmarks m.vars
  · exact hmarks m.allVars
  · rw [hmarks]
    exact indicesFrom_map hrequired 0 _
  · rw [hmarks]
    exact indicesFrom_map (fun p => congrArg not (hrequired p)) 0 _
  · rw [hmarks]
    exact indicesFrom_map hreadOnly 0 _
  · rw [hmarks]
    exact indicesFrom_map (fun p => congrArg not (hreadOnly p)) 0 _
  · rw [hmarks, List.isEmpty_map]
  · simp only [hmarks, List.any_map, Function.comp_def, henum]
  · simp only [hmarks, List.any_map, Function.comp_def, hrequired]
  · simp only [hmarks, List.any_map, Function.comp_def, hrequired]
  · simp only [hmarks, List.all_map, Function.comp_def, hreadOnly]

theorem Indexed.nameEnums {m : Model} (h : Indexed m) (v : Conventions) :
    Indexed (nameEnums v m) := by
  rw [Indexed, reindex_nameEnums, h]

end Model

namespace ModelMap

/-- Every model is indexed in the end. -/
theorem indexed_ofDocument (c : Context) : ∀ e ∈ (ofDocument c).value, e.2.Indexed := by
  refine forall_mem_ofDocument (P := Model.Indexed) (Q := Model.Indexed) ?built ?linked ?named
    ?dropped
  case built =>
    refine forall_mem_ofSchemas (fun e _ => Model.indexed_reindex _) ?_
    intro name branches u hu
    unfold Model.ofUnion? at hu
    obtain ⟨interfaces, -, hu⟩ := Option.bind_eq_some_iff.mp hu
    obtain rfl := Option.some.inj hu
    exact Model.indexed_reindex _
  case linked =>
    intro m parentModel interfaceModels children hm
    have hviews := congrArg (fun m' : Model => { m' with parentModel, interfaceModels, children }) hm
    exact hviews
  case named => exact fun m hm => hm.nameEnums c.conventions
  case dropped => exact fun names m _ => Model.indexed_reindex _

end ModelMap

namespace Resolution

variable {o : Options} {v : Conventions} {d : Document} {r : Resolution}

/-- The views of every model of a resolution agree with its members, whatever the conventions do to
finished members. -/
theorem views_ofDocument (h : ofDocument o v d = .ok r) : ∀ e ∈ r.models, e.2.Views := by
  intro e he
  rw [(of_ofDocument h).models] at he
  exact (ModelMap.indexed_ofDocument _ e he).views

/-- Conventions that make required members optional and others required, and that keep identifiers
from being written. -/
def invertedConventions : Conventions where
  finishProperty _ p := { p with required := !p.required, readOnly := p.baseName == "id" }

/-- A pet with a status, and a cat that is a pet and declares the status again. -/
def statusPets : Document :=
  let status : Schema :=
    { shape := .scalar .string, enumValues := [.string "sold", .string "free"] }
  { components := { schemas := [
      ("Pet", .ofShape (.object [("id", .scalar .string), ("status", status)] ["id"])),
      ("Cat", .ofShape (.composed [.reference "#/components/schemas/Pet"] [] []
        [("status", status), ("age", .scalar .integer), ("id", .scalar .string)] ["age"]))] } }

/-- The cat does not list the status that it inherits, and its views are those of what is left. -/
theorem views_statusPets :
    ∃ r m, ofDocument { supportsInheritance := true } invertedConventions statusPets = .ok r ∧
      ("Cat", m) ∈ r.models ∧ m.vars.map (·.baseName) = ["age", "id"] ∧
      m.requiredVars = [1] ∧ m.readOnlyVars = [1] ∧ m.Views := by
  have hcat : (model? { supportsInheritance := true } invertedConventions statusPets "Cat").map
      (fun m => (m.vars.map (·.baseName), m.requiredVars, m.readOnlyVars)) =
      some (["age", "id"], [1], [1]) := by decide +kernel
  obtain ⟨m, hm, hviews⟩ := Option.map_eq_some_iff.mp hcat
  obtain ⟨r, hr, hl⟩ := exists_of_model? hm
  have hmem := Entries.mem_of_lookup? hl
  exact ⟨r, m, hr, hmem, congrArg Prod.fst hviews, congrArg (·.2.1) hviews,
    congrArg (·.2.2) hviews, views_ofDocument hr _ hmem⟩

end Resolution
end ApiResolution
