import ApiResolution.Context
import ApiResolution.Proofs.Pointwise
import ApiResolution.Proofs.Schema.Equivalence
import Mathlib.Data.Multiset.MapFold

/-!
Schemas that differ in the order of properties, at any level. A schema with rearranged properties
has an equal value (`Schema.Rearranged.same`), and among rearranged named schemas references lead
from rearranged schemas to rearranged schemas (`Context.Rearranged.dereference`).
-/

namespace ApiResolution

/-- Entries of the same name with related values. -/
inductive SameName {α : Type} (R : α → α → Prop) : String × α → String × α → Prop
  | mk (name : String) {v w : α} (h : R v w) : SameName R (name, v) (name, w)

/-- Schemas that differ in the order of properties only, at any level. -/
inductive Schema.Rearranged : Schema → Schema → Prop
  | node {s t : Schema} (annotations : s.toAnnotations = t.toAnnotations)
      (plain : s.shape.plain = t.shape.plain)
      (element : Option.Rel Rearranged s.shape.element? t.shape.element?)
      (branches : List.Forall₂ (List.Forall₂ Rearranged) s.shape.branches t.shape.branches)
      (members : Multiset.Rel (SameName Rearranged) (s.shape.members : Multiset (String × Schema))
        t.shape.members) : Rearranged s t

/-- The named schemas are rearranged, each in its place. -/
structure Context.Rearranged (c c' : Context) : Prop where
  self : c.self = c'.self
  schemas : List.Forall₂ (SameName Schema.Rearranged) c.schemas c'.schemas

theorem SameName.fst_eq {α : Type} {R : α → α → Prop} {e f : String × α} (h : SameName R e f) :
    e.1 = f.1 := by
  cases h
  rfl

theorem SameName.snd {α : Type} {R : α → α → Prop} {e f : String × α} (h : SameName R e f) :
    R e.2 f.2 := by
  cases h
  assumption

namespace Shape

variable {α : Type} {shape other : Shape α}

theorem required_eq_of_plain (h : shape.plain = other.plain) : shape.required = other.required := by
  cases shape <;> cases other <;> simp_all [plain, required]

end Shape

namespace Schema

namespace Rearranged

variable {s t : Schema}

protected theorem refl (s : Schema) : Rearranged s s := by
  induction s using inside_induction with
  | h s ih =>
    refine .node rfl rfl ?_ ?_ ?_
    · cases helement : s.shape.element? with
      | none => exact .none
      | some t => exact .some (ih t (Shape.element?_subset_parts helement))
    · refine List.forall₂_same.mpr fun ts hts => List.forall₂_same.mpr fun t ht => ?_
      exact ih t (Shape.branches_subset_parts hts ht)
    · refine Multiset.rel_refl_of_refl_on fun e he => ?_
      exact .mk e.1 (ih e.2 (Shape.members_subset_parts he))

/-- Properties may stand in any order. -/
theorem of_perm {a : Annotations} {ps qs : List (String × Schema)} {rs : List String}
    (h : ps.Perm qs) : Rearranged ⟨a, .object ps rs⟩ ⟨a, .object qs rs⟩ := by
  refine .node rfl rfl .none .nil ?_
  have hsame : (ps : Multiset (String × Schema)) = qs := Multiset.coe_eq_coe.mpr h
  change Multiset.Rel (SameName Rearranged) (ps : Multiset (String × Schema)) qs
  rw [← hsame]
  exact Multiset.rel_refl_of_refl_on fun e _ => .mk e.1 (.refl e.2)

theorem annotations_eq (h : Rearranged s t) : s.toAnnotations = t.toAnnotations := by
  cases h
  assumption

theorem plain_eq (h : Rearranged s t) : s.shape.plain = t.shape.plain := by
  cases h
  assumption

theorem members (h : Rearranged s t) :
    Multiset.Rel (SameName Rearranged) (s.shape.members : Multiset (String × Schema))
      t.shape.members := by
  cases h
  assumption

theorem keys_perm (h : Rearranged s t) :
    (Entries.keys s.shape.members).Perm (Entries.keys t.shape.members) := by
  have hkeys := Multiset.rel_map.mpr (h.members.mono fun _ _ _ _ he => SameName.fst_eq he)
  rw [Multiset.rel_eq] at hkeys
  simpa [Entries.keys] using hkeys

theorem required_eq (h : Rearranged s t) : s.required = t.required :=
  Shape.required_eq_of_plain h.plain_eq

theorem isMap_eq (h : Rearranged s t) : s.isMap = t.isMap := by
  have hplain := h.plain_eq
  unfold isMap
  cases hs : s.shape <;> cases ht : t.shape <;> simp_all [Shape.plain]

theorem isArray_eq (h : Rearranged s t) : s.isArray = t.isArray := by
  have hplain := h.plain_eq
  unfold isArray
  cases hs : s.shape <;> cases ht : t.shape <;> simp_all [Shape.plain]

theorem refName?_eq (h : Rearranged s t) (self : Option String) :
    s.refName? self = t.refName? self := by
  have hplain := h.plain_eq
  unfold refName? typeTag
  cases hs : s.shape <;> cases ht : t.shape <;> simp_all [Shape.plain]

/-- Rearranging the properties of a schema in which no mapping has a name twice leaves its value as
it is. -/
theorem same (h : Rearranged s t) (hs : s.Every Distinct) : Schema.same s t = true := by
  induction hs generalizing t with
  | @node s here _ ih =>
    have hkeys := h.keys_perm
    obtain ⟨hannotations, hplain, helement, hbranches, hmembers⟩ := h
    refine same_iff.mpr ⟨?_, sameShape_iff.mpr ⟨hplain, ?_, ?_, ?_, ?_⟩⟩
    · rw [← hannotations]
      exact here.annotations.comparable.refl
    · refine helement.imp_of_mem fun t u ht htu => ?_
      exact ih t (Shape.element?_subset_parts ht) htu
    · refine hbranches.imp_of_mem fun ts us hts hrel => hrel.imp_of_mem fun t u ht htu => ?_
      exact ih t (Shape.branches_subset_parts hts ht) htu
    · simpa using Multiset.card_eq_card_of_rel hmembers
    · intro e he
      obtain ⟨f, hf, hef⟩ := Multiset.exists_mem_of_rel_of_mem hmembers (Multiset.mem_coe.mpr he)
      refine ⟨f.2, ?_, ih e.2 (Shape.members_subset_parts he) hef.snd⟩
      have hn : (Entries.keys t.shape.members).Nodup := hkeys.nodup_iff.mp here.members
      exact Entries.lookup?_of_mem hn (hef.fst_eq ▸ Multiset.mem_coe.mp hf)

end Rearranged
end Schema

namespace Context

variable {c c' : Context} {s t : Schema}

theorem Rearranged.refName?_eq (h : c.Rearranged c') (hs : s.Rearranged t) :
    c.refName? s = c'.refName? t := by
  rw [refName?, refName?, h.self, hs.refName?_eq]

theorem Rearranged.schema? (h : c.Rearranged c') (name : String) :
    Option.Rel Schema.Rearranged (c.schema? name) (c'.schema? name) := by
  have hschemas := h.schemas
  unfold Context.schema?
  generalize c.schemas = es at hschemas ⊢
  generalize c'.schemas = fs at hschemas ⊢
  induction hschemas with
  | nil => exact .none
  | @cons e f _ _ hef _ ih =>
    rcases e with ⟨key, s⟩
    rcases f with ⟨_, t⟩
    obtain rfl : key = _ := hef.fst_eq
    rw [Entries.lookup?_cons, Entries.lookup?_cons]
    split
    · exact .some hef.snd
    · exact ih

theorem Rearranged.chainEnd? (h : c.Rearranged c') (hops : Nat) (seen : List String)
    (hs : s.Rearranged t) :
    Option.Rel Schema.Rearranged (c.chainEnd? hops seen s) (c'.chainEnd? hops seen t) := by
  induction hops generalizing seen s t with
  | zero => exact .none
  | succ hops ih =>
    rw [Context.chainEnd?, Context.chainEnd?, h.refName?_eq hs]
    cases c'.refName? t with
    | none => exact .some hs
    | some name =>
      dsimp only
      split
      · exact .none
      · have htarget := h.schema? name
        generalize c.schema? name = x at htarget ⊢
        generalize c'.schema? name = y at htarget ⊢
        cases htarget with
        | none => exact .none
        | some htarget => exact ih (name :: seen) htarget

/-- Rearranged schemas stand at the ends of the chains of references. -/
theorem Rearranged.dereference (h : c.Rearranged c') (hs : s.Rearranged t) :
    (c.dereference s).Rearranged (c'.dereference t) := by
  exact (h.chainEnd? maxHops [] hs).getD hs

end Context
end ApiResolution
