import ApiResolution.Proofs.Marks
import ApiResolution.Property.Enum

/-!
The part of a property that is settled when its schema is read. Later stages name the members of
enums, write defaults as members and mark the places in lists; `settled` leaves those out, so none
of these stages is seen through it (`settled_nameIfEnum`, `map_settled_markHasMore`), and it keeps
the types of every level.
-/

namespace ApiResolution

/-- The facts of a property without the names of enum members, the default and the mark of its place
in a list. -/
def PropertyFacts.settled (facts : PropertyFacts) : PropertyFacts :=
  { facts with
    enumValues := facts.enumValues.map fun e => { e with members := [] }
    defaultText := none
    hasMore := false }

namespace Property

/-- A property without what later stages fill in, at every level. -/
def settled : Property → Property
  | ⟨facts, none⟩ => ⟨facts.settled, none⟩
  | ⟨facts, some inner⟩ => ⟨facts.settled, some (settled inner)⟩

theorem settled_eq (p : Property) :
    p.settled = ⟨p.toPropertyFacts.settled, p.items.map settled⟩ := by
  rcases p with ⟨facts, items⟩
  cases items <;> rfl

@[simp] theorem baseName_settled (p : Property) : p.settled.baseName = p.baseName := by
  rw [settled_eq]
  rfl

@[simp] theorem baseType_settled (p : Property) : p.settled.baseType = p.baseType := by
  rw [settled_eq]
  rfl

@[simp] theorem complexType_settled (p : Property) : p.settled.complexType = p.complexType := by
  rw [settled_eq]
  rfl

@[simp] theorem composedModel_settled (p : Property) :
    p.settled.composedModel = p.composedModel := by
  rw [settled_eq]
  rfl

@[simp] theorem required_settled (p : Property) : p.settled.required = p.required := by
  rw [settled_eq]
  rfl

@[simp] theorem readOnly_settled (p : Property) : p.settled.readOnly = p.readOnly := by
  rw [settled_eq]
  rfl

@[simp] theorem isEnum_settled (p : Property) : p.settled.isEnum = p.isEnum := by
  rw [settled_eq]
  rfl

theorem enumValues_settled (p : Property) :
    p.settled.enumValues = p.enumValues.map fun e => { e with members := [] } := by
  rw [settled_eq]
  rfl

theorem innermost_settled (p : Property) : p.settled.innermost = p.innermost.settled := by
  induction p using Property.innermost.induct with
  | case1 facts => rfl
  | case2 facts inner ih => exact ih

theorem levels_settled (p : Property) : p.settled.levels = p.levels.map settled := by
  induction p using Property.innermost.induct with
  | case1 facts => rfl
  | case2 facts inner ih =>
    rw [settled, levels, ih, levels, List.map_cons]
    rfl

/-- Properties that are settled in the same way refer to the same models at the same levels. -/
theorem complexTypes_of_settled_eq {p q : Property} (h : p.settled = q.settled) :
    p.levels.map (·.complexType) = q.levels.map (·.complexType) := by
  have hlevels := congrArg (fun r => r.levels.map (·.complexType)) h
  simp only [levels_settled, List.map_map] at hlevels
  simpa [Function.comp_def] using hlevels

/-! ## Later stages -/

theorem settled_mapInnermost {f : Property → Property} (hf : ∀ q, (f q).settled = q.settled)
    (p : Property) : (mapInnermost f p).settled = p.settled := by
  induction p using Property.innermost.induct with
  | case1 facts => exact hf _
  | case2 facts inner ih => rw [mapInnermost, settled, settled, ih]

theorem settled_setMembers (members : List EnumMember) (p : Property) :
    (setMembers members p).settled = p.settled := by
  rw [settled_eq, settled_eq, setMembers, PropertyFacts.settled, PropertyFacts.settled]
  simp [Function.comp_def]

theorem settled_nameDefault (v : Conventions) (values : List Json) (members : List EnumMember)
    (p : Property) : (nameDefault v values members p).settled = p.settled := by
  unfold nameDefault
  split
  · rw [settled_eq, settled_eq]
    rfl
  · rfl

/-- Naming the members of an enum changes nothing that was settled. -/
theorem settled_nameIfEnum (v : Conventions) (p : Property) :
    (nameIfEnum v p).settled = p.settled := by
  unfold nameIfEnum nameEnum
  split
  · dsimp only
    split
    · rfl
    · rw [settled_mapInnermost (settled_setMembers _), settled_setMembers, settled_nameDefault]
  · rfl

/-- What is settled of a property is the same once the members of an enum are named. -/
theorem apply_nameIfEnum {α : Type} {f : Property → α} (hf : ∀ p, f p.settled = f p)
    (v : Conventions) (p : Property) : f (nameIfEnum v p) = f p := by
  rw [← hf, settled_nameIfEnum, hf]

theorem settled_setHasMore (more : Bool) (p : Property) :
    ({ p with hasMore := more } : Property).settled = p.settled := by
  rw [settled_eq, settled_eq]
  rfl

theorem map_settled_markHasMore (ps : List Property) :
    (markHasMore ps).map settled = ps.map settled := by
  rw [markHasMore_eq]
  exact map_setMarks settled_setHasMore ps

theorem map_settled_nameIfEnum (v : Conventions) (ps : List Property) :
    (ps.map (nameIfEnum v)).map settled = ps.map settled := by
  rw [List.map_map]
  exact List.map_congr_left fun p _ => settled_nameIfEnum v p

end Property
end ApiResolution
