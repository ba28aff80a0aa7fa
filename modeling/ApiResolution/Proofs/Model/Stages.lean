import ApiResolution.Proofs.Model.Construction
import ApiResolution.Proofs.Model.Hierarchy
import ApiResolution.Proofs.Property.Settled

/-!
The stages from the models of schemas to those of a document: linking, naming enum members and
dropping inherited enums. No stage adds or renames a model (`keys_ofDocument`), and `Keeps` says
what all of them leave of a model; only inherited enums are taken from its members.
-/

namespace ApiResolution

/-- What the later stages leave of a model. -/
structure Model.Keeps (before after : Model) : Prop where
  name : after.name = before.name
  className : after.className = before.className
  schemaText : after.schemaText = before.schemaText
  isComposed : after.isComposed = before.isComposed
  interfaces : after.interfaces = before.interfaces
  container : after.containerProperty = before.containerProperty
  vars : (after.vars.map Property.settled).Sublist (before.vars.map Property.settled)
  allVars : after.allVars.map Property.settled = before.allVars.map Property.settled

namespace Model

theorem Keeps.refl (m : Model) : Keeps m m :=
  ⟨rfl, rfl, rfl, rfl, rfl, rfl, List.Sublist.refl _, rfl⟩

theorem Keeps.trans {a b d : Model} (h : Keeps a b) (h' : Keeps b d) : Keeps a d :=
  ⟨h'.name.trans h.name, h'.className.trans h.className, h'.schemaText.trans h.schemaText,
    h'.isComposed.trans h.isComposed, h'.interfaces.trans h.interfaces,
    h'.container.trans h.container, h'.vars.trans h.vars, h'.allVars.trans h.allVars⟩

theorem keeps_nameEnums (v : Conventions) (m : Model) : Keeps m (nameEnums v m) := by
  refine ⟨rfl, rfl, rfl, rfl, rfl, rfl, ?_, Property.map_settled_nameIfEnum v m.allVars⟩
  rw [show (nameEnums v m).vars = m.vars.map (Property.nameIfEnum v) from rfl,
    Property.map_settled_nameIfEnum]

theorem keeps_dropVars (names : List String) (m : Model) : Keeps m (dropVars names m) := by
  refine ⟨rfl, rfl, rfl, rfl, rfl, rfl, ?_, Property.map_settled_markHasMore m.allVars⟩
  have hvars : (dropVars names m).vars =
      Property.markHasMore (m.vars.filter fun p => !names.contains p.name) := rfl
  rw [hvars, Property.map_settled_markHasMore]
  exact (List.filter_sublist).map Property.settled

/-- A member that a model has in the end was settled when its schema was read. -/
theorem Keeps.exists_var {before after : Model} (h : Keeps before after) {p : Property}
    (hp : p ∈ after.vars) : ∃ q ∈ before.vars, q.settled = p.settled :=
  List.mem_map.mp (h.vars.subset (List.mem_map_of_mem hp))

theorem Keeps.exists_allVar {before after : Model} (h : Keeps before after) {p : Property}
    (hp : p ∈ after.allVars) : ∃ q ∈ before.allVars, q.settled = p.settled :=
  List.mem_map.mp (h.allVars ▸ List.mem_map_of_mem hp)

end Model

namespace ModelMap

theorem keys_dropInheritedEnums (models : ModelMap) :
    Entries.keys (dropInheritedEnums models) = Entries.keys models :=
  Entries.keys_foldl_modify (fun e : String × List String => e.1) (fun e => Model.dropVars e.2) _ _

theorem value_ofDocument (c : Context) :
    (ofDocument c).value = dropInheritedEnums (Entries.mapValues (Model.nameEnums c.conventions)
      (if c.options.supportsInheritance then (link (ofSchemas c).value).value
        else (ofSchemas c).value)) := by
  unfold ofDocument
  simp only [Noted.value_bind]
  split <;> rfl

theorem keys_ofDocument (c : Context) :
    Entries.keys (ofDocument c).value = Entries.keys (ofSchemas c).value := by
  rw [value_ofDocument, keys_dropInheritedEnums, Entries.keys_mapValues]
  split
  · exact keys_link _
  · rfl

theorem keeps_link {models : ModelMap} {name : String} {m : Model}
    (h : Entries.lookup? name (link models).value = some m) :
    ∃ before, Entries.lookup? name models = some before ∧ Model.Keeps before m := by
  rw [lookup?_link] at h
  obtain ⟨before, hb, rfl⟩ := Option.map_eq_some_iff.mp h
  exact ⟨before, hb, rfl, rfl, rfl, rfl, rfl, rfl, List.Sublist.refl _, rfl⟩

/-- Each model of a document is what the later stages leave of a model of its schemas. -/
theorem keeps_ofDocument {c : Context} {name : String} {m : Model}
    (h : Entries.lookup? name (ofDocument c).value = some m) :
    ∃ before, Entries.lookup? name (ofSchemas c).value = some before ∧ Model.Keeps before m := by
  rw [value_ofDocument] at h
  obtain ⟨named, hn, hnm⟩ := Entries.exists_of_lookup?_foldl_modify Model.Keeps.refl
    (fun _ _ _ => Model.Keeps.trans) (fun e : String × List String => e.1)
    (fun e => Model.dropVars e.2) (fun e => Model.keeps_dropVars e.2) _ h
  rw [Entries.lookup?_mapValues] at hn
  obtain ⟨linked, hl, rfl⟩ := Option.map_eq_some_iff.mp hn
  have hlm := (Model.keeps_nameEnums c.conventions linked).trans hnm
  split at hl
  · obtain ⟨before, hb, hbl⟩ := keeps_link hl
    exact ⟨before, hb, hbl.trans hlm⟩
  · exact ⟨linked, hl, hlm⟩

/-- What holds of the models of schemas and of unions holds of every model before it is linked. -/
theorem forall_mem_ofSchemas {P : Model → Prop} {c : Context}
    (hschema : ∀ e ∈ c.schemas, P (Model.ofSchema c e.1 e.2).value.value)
    (hunion : ∀ name branches u, Model.ofUnion? c name branches = some u → P u) :
    ∀ e ∈ (ofSchemas c).value, P e.2 := by
  rw [value_ofSchemas]
  have hnamed : ∀ e ∈ Entries.ofList (named c), P e.2 := by
    intro e he
    obtain ⟨e', he', rfl⟩ := List.mem_map.mp (Entries.mem_of_mem_ofList he)
    exact hschema e' he'
  have hunions : ∀ u ∈ unions c, P u := by
    intro u hu
    obtain ⟨name, branches, ho⟩ := exists_ofUnion? hu
    exact hunion name branches u ho
  generalize Entries.ofList (named c) = models at hnamed
  generalize unions c = us at hunions
  induction us generalizing models with
  | nil => exact hnamed
  | cons u us ih =>
    rw [List.forall_mem_cons] at hunions
    refine ih _ (fun e he => ?_) hunions.2
    unfold addFree at he
    split at he
    · exact hnamed e he
    · rcases Entries.mem_insert he with rfl | he
      · exact hunions.1
      · exact hnamed e he

theorem fresh_ofSchemas {c : Context} : ∀ e ∈ (ofSchemas c).value, e.2.Fresh :=
  forall_mem_ofSchemas (fun e _ => Model.fresh_ofSchema c e.1 e.2)
    fun _ _ _ => Model.fresh_of_ofUnion?

theorem forall_mem_dropInheritedEnums {P : Model → Prop}
    (hdropped : ∀ names m, P m → P (Model.dropVars names m)) {models : ModelMap}
    (h : ∀ e ∈ models, P e.2) : ∀ e ∈ dropInheritedEnums models, P e.2 :=
  Entries.forall_mem_foldl_modify (fun e : String × List String => e.1)
    (fun e => Model.dropVars e.2) (fun e => hdropped e.2) _ h

/-- What naming the members of enums establishes and dropping inherited ones keeps holds of every
model of a document, if before it held of every model that is built and linking keeps it. -/
theorem forall_mem_ofDocument {P Q : Model → Prop} {c : Context}
    (hbuilt : ∀ e ∈ (ofSchemas c).value, P e.2)
    (hlinked : ∀ m parentModel interfaceModels children, P m →
      P { m with parentModel, interfaceModels, children })
    (hnamed : ∀ m, P m → Q (Model.nameEnums c.conventions m))
    (hdropped : ∀ names m, Q m → Q (Model.dropVars names m)) :
    ∀ e ∈ (ofDocument c).value, Q e.2 := by
  have hlink : ∀ e ∈ (link (ofSchemas c).value).value, P e.2 := by
    rw [value_link]
    refine Entries.forall_mem_foldl_modify (fun r : String × String => r.1)
      (fun r (m : Model) => { m with children := insertText r.2 m.children })
      (fun r m hm => hlinked m _ _ _ hm) _ ?_
    exact Entries.forall_mem_mapValues (fun m hm => hlinked m _ _ _ hm) hbuilt
  rw [value_ofDocument]
  refine forall_mem_dropInheritedEnums hdropped (Entries.forall_mem_mapValues hnamed ?_)
  split
  · exact hlink
  · exact hbuilt

/-- Each model of the schemas stays in the document. -/
theorem exists_ofDocument {c : Context} {name : String} {before : Model}
    (h : Entries.lookup? name (ofSchemas c).value = some before) :
    ∃ m, Entries.lookup? name (ofDocument c).value = some m ∧ Model.Keeps before m := by
  have hk : name ∈ Entries.keys (ofDocument c).value := by
    rw [keys_ofDocument]
    exact Entries.mem_keys_of_lookup? h
  obtain ⟨m, hm⟩ := Entries.exists_lookup?_of_mem_keys hk
  obtain ⟨before', hb', hkeeps⟩ := keeps_ofDocument hm
  rw [h] at hb'
  obtain rfl := Option.some.inj hb'
  exact ⟨m, hm, hkeeps⟩

end ModelMap
end ApiResolution
