import ApiResolution.Model.OfSchema
import ApiResolution.Proofs.Property.Types

/-!
What does not depend on the options of a resolution. References are followed, types are told and
properties are built in the same way whatever the options are, and so are single members and what is
reached from a branch; only the choice among branches looks at them.
-/

namespace ApiResolution

/-- The same document and conventions with other options. -/
def Context.withOptions (c : Context) (o : Options) : Context := { c with options := o }

variable (c : Context) (o : Options)

namespace Context

@[simp] theorem refName?_withOptions (s : Schema) : (c.withOptions o).refName? s = c.refName? s :=
  rfl

@[simp] theorem schema?_withOptions (name : String) :
    (c.withOptions o).schema? name = c.schema? name := rfl

@[simp] theorem conventions_withOptions : (c.withOptions o).conventions = c.conventions := rfl

theorem chainEnd?_withOptions (hops : Nat) (seen : List String) (s : Schema) :
    (c.withOptions o).chainEnd? hops seen s = c.chainEnd? hops seen s := by
  induction hops generalizing seen s with
  | zero => rfl
  | succ hops ih => simp only [chainEnd?, refName?_withOptions, schema?_withOptions, ih]

@[simp] theorem dereference_withOptions (s : Schema) :
    (c.withOptions o).dereference s = c.dereference s := by
  rw [dereference, chainEnd?_withOptions, dereference]

end Context

namespace Property

@[simp] theorem start_withOptions (name : String) (s : Schema) :
    start (c.withOptions o) name s = start c name s := rfl

@[simp] theorem cutOff_withOptions (name : String) (s : Schema) :
    cutOff (c.withOptions o) name s = cutOff c name s := rfl

@[simp] theorem leafAt_withOptions (depth : Nat) (name : String) (s : Schema) :
    leafAt (c.withOptions o) depth name s = leafAt c depth name s := by
  have hshaped : isObjectShaped (c.withOptions o) s = isObjectShaped c s := by
    funext tag
    cases tag <;> simp [isObjectShaped]
  simp [leafAt, leaf, hshaped]

theorem ofSchemaAt_withOptions (depth : Nat) (name : String) (s : Schema) :
    ofSchemaAt (c.withOptions o) depth name s = ofSchemaAt c depth name s := by
  fun_induction ofSchemaAt c depth name s with
  | case1 depth name a items s hdeep => simp [ofSchemaAt, hdeep, s]
  | case2 depth name a items s hdeep ih => simp [ofSchemaAt, hdeep, s, ih]
  | case3 depth name a s hdeep => simp [ofSchemaAt, hdeep, s]
  | case4 depth name a s hdeep => simp [ofSchemaAt, hdeep, s]
  | case5 depth name a value ps rs s hdeep => simp [ofSchemaAt, hdeep, s]
  | case6 depth name a value ps rs s hdeep ih => simp [ofSchemaAt, hdeep, s, ih]
  | case7 depth name a ps rs s hdeep => simp [ofSchemaAt, hdeep, s]
  | case8 depth name a ps rs s hdeep => simp [ofSchemaAt, hdeep, s]
  | case9 depth name s hitems harray hvalue hmap =>
    rw [ofSchemaAt, leafAt_withOptions] <;> assumption

@[simp] theorem ofSchema_withOptions (name : String) (s : Schema) :
    ofSchema (c.withOptions o) name s = ofSchema c name s :=
  ofSchemaAt_withOptions c o 0 name s

end Property

namespace Model

theorem ofUnion?_withOptions (name : String) (branches : List Schema) :
    ofUnion? (c.withOptions o) name branches = ofUnion? c name branches := by
  have halternative : alternative? (c.withOptions o) = alternative? c := by
    funext branch
    simp [alternative?]
  simp [ofUnion?, halternative]

@[simp] theorem ofMemberUnion?_withOptions (model : String) (member : Option String) (s : Schema) :
    ofMemberUnion? (c.withOptions o) model member s = ofMemberUnion? c model member s := by
  simp [ofMemberUnion?, ofUnion?_withOptions]

@[simp] theorem member_withOptions (model : String) (required : List String) (name : String)
    (s : Schema) :
    member (c.withOptions o) model required name s = member c model required name s := by
  simp [member]

end Model

namespace Members

mutual

theorem collect_withOptions (follow : String → Walk → Walk) :
    (s : Schema) → (w : Walk) → collect (c.withOptions o) follow s w = collect c follow s w
  | ⟨a, shape⟩, w => by
    cases shape with
    | composed allOf oneOf anyOf ps rs =>
      rw [collect, collect, collectAll_withOptions follow allOf w]
    | _ =>
      rw [collect, collect, Context.refName?_withOptions]
      · simp
      · simp

theorem collectAll_withOptions (follow : String → Walk → Walk) :
    (ss : List Schema) → (w : Walk) → collectAll (c.withOptions o) follow ss w =
      collectAll c follow ss w
  | [], w => by rw [collectAll, collectAll]
  | s :: ss, w => by
    rw [collectAll, collectAll, collect_withOptions follow s w,
      collectAll_withOptions follow ss]

end

theorem reach_withOptions (rest : Nat) : reach (c.withOptions o) rest = reach c rest := by
  induction rest with
  | zero => rfl
  | succ rest ih =>
    funext name w
    rw [reach, reach, ih]
    simp only [Context.schema?_withOptions, collect_withOptions]

@[simp] theorem addReached_withOptions (self : String) (branch : Schema) (ms : Members) :
    addReached (c.withOptions o) self branch ms = addReached c self branch ms := by
  rw [addReached, collect_withOptions, reach_withOptions]
  rfl

end Members
end ApiResolution
