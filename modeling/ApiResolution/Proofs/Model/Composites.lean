import ApiResolution.Proofs.Model.Origins
import ApiResolution.Proofs.Property.Types

/-!
Models made for unions. A property that a schema lists and that stands for the union at its end
names a model of the document (`composite_of_composedModel`): the model of the schema that has the
name already, and otherwise that of the first union that was given it, so that unions share a model
only when they share a name.
-/

namespace ApiResolution
namespace Model

/-- What stands under the name that the union at the end of a schema `t` gets in the model `owner`,
for one of its members or for the model as a whole. -/
structure StandsForUnion (c : Context) (owner : String) (member : Option String) (t : Schema)
    (name : String) (composite : Model) : Prop where
  className : composite.className = c.conventions.modelName name
  /-- A schema keeps its name, and its own model stands there. -/
  ofSchema : ∀ s, c.schema? name = some s → Keeps (Model.ofSchema c name s).value.value composite
  /-- A free name goes to the model of the first union that is given it. -/
  ofUnion : c.schema? name = none → composite.isComposed = true ∧
    ∃ first, (ModelMap.unions c).find? (fun u => u.name == name) = some first ∧
      Keeps first composite
  /-- The union has a name made of those of its owner, and refers to schemas of objects only. If no
  other union is given the name, the model has exactly their names for its interfaces. -/
  branches : ∃ kind bs names, t.innermost.union? = some (kind, bs) ∧
    name = Identifier.ofUnion kind.word owner member ∧ bs.map c.refName? = names.map some ∧
    (c.schema? name = none →
      (∀ u ∈ ModelMap.unions c, u.name = name → u.interfaces = names) →
      composite.interfaces = names)

theorem refName?_of_alternative? {c : Context} {branch : Schema} {name : String}
    (h : alternative? c branch = some name) : c.refName? branch = some name := by
  unfold alternative? at h
  obtain ⟨n, hn, h⟩ := Option.bind_eq_some_iff.mp h
  obtain ⟨s, -, h⟩ := Option.bind_eq_some_iff.mp h
  dsimp only at h
  split at h
  · rw [← Option.some.inj h]
    exact hn
  · exact absurd h (by simp)

theorem map_refName?_of_mapM {c : Context} {bs : List Schema} {names : List String}
    (h : bs.mapM (alternative? c) = some names) : bs.map c.refName? = names.map some := by
  induction bs generalizing names with
  | nil =>
    obtain rfl : names = [] := by simpa using h.symm
    rfl
  | cons b bs ih =>
    rw [List.mapM_cons] at h
    obtain ⟨name, hname, h⟩ := Option.bind_eq_some_iff.mp h
    obtain ⟨rest, hrest, h⟩ := Option.bind_eq_some_iff.mp h
    obtain rfl := Option.some.inj h
    rw [List.map_cons, List.map_cons, ih hrest, refName?_of_alternative? hname]

/-- The union of a member that a schema lists is among the unions of the document. -/
theorem mem_unions_of_listed {c : Context} {owner : String} {s : Schema}
    (hs : c.schema? owner = some s) {e : String × Schema}
    (he : e ∈ (listedMembers c owner s).properties) {u : Model}
    (hu : ofMemberUnion? c owner (some e.1) e.2 = some u) : u ∈ ModelMap.unions c := by
  refine List.mem_flatMap.mpr ⟨(owner, s), Entries.mem_of_lookup? hs, ?_⟩
  rw [value_ofSchema, (describes_described c owner s).unions, unions_members]
  refine List.mem_append_right _ (List.mem_flatMap.mpr ⟨e, he, ?_⟩)
  rw [hu]
  exact List.mem_singleton.mpr rfl

/-- The union of an array or a map as a whole is among the unions of the document. -/
theorem mem_unions_of_whole {c : Context} {owner : String} {s : Schema}
    (hs : c.schema? owner = some s) (hcontainer : (s.isArray || s.isMap) = true) {u : Model}
    (hu : ofMemberUnion? c owner none s = some u) : u ∈ ModelMap.unions c := by
  refine List.mem_flatMap.mpr ⟨(owner, s), Entries.mem_of_lookup? hs, ?_⟩
  rw [value_ofSchema, (describes_described c owner s).unions]
  refine List.mem_append_left _ ?_
  have hmem : u ∈ (ofMemberUnion? c owner none s).toList := by simp [hu]
  rcases s with ⟨a, shape⟩
  cases shape with
  | array items => exact hmem
  | map value ps rs => exact hmem
  | _ => exact absurd hcontainer (by simp [Schema.isArray, Schema.isMap])

/-- Under the name of a union of the document stands a model that fits it. -/
theorem exists_standsForUnion {c : Context} (hd : c.document.DistinctSchemas) {owner : String}
    {member : Option String} {t : Schema} {u : Model}
    (ht : ofMemberUnion? c owner member t = some u) (hu : u ∈ ModelMap.unions c) :
    ∃ composite, Entries.lookup? u.name (ModelMap.ofDocument c).value = some composite ∧
      StandsForUnion c owner member t u.name composite := by
  obtain ⟨kind, bs, hkind, ho⟩ := ofMemberUnion?_eq_some ht
  have hof := of_ofUnion? ho
  obtain ⟨composite, hl, hclass, hschema, hunion⟩ := ModelMap.exists_union_model hd hu
  refine ⟨composite, hl, hclass, hschema, hunion, kind, bs, u.interfaces, hkind, hof.1,
    map_refName?_of_mapM hof.2.2.2.1, ?_⟩
  intro hnone hall
  obtain ⟨-, first, hfirst, hkeeps⟩ := hunion hnone
  rw [hkeeps.interfaces]
  exact hall first (List.mem_of_find?_eq_some hfirst) (by simpa using List.find?_some hfirst)

/-! ## Properties that stand for unions -/

theorem value_member_toUnion (c : Context) (owner : String) (required : List String)
    (name : String) (s : Schema) :
    (Model.member c owner required name s).value.value =
      Property.toUnion c.conventions
        { (Property.ofSchema c name s).value with required := required.contains name }
        (ofMemberUnion? c owner (some name) s) := rfl

/-- A property, retyped for the union at the end of its schema, stands for exactly that union. -/
theorem union_of_composedModel {v : Conventions} {p : Property} (hnone : p.composedModel = none)
    {union : Option Model} {comp : String}
    (h : (Property.toUnion v p union).composedModel = some comp) :
    ∃ u, union = some u ∧ u.name = comp ∧
      (Property.toUnion v p union).innermost.baseType = v.typeName (.reference u.className) := by
  cases union with
  | none =>
    rw [Property.toUnion, hnone] at h
    exact absurd h (by simp)
  | some u =>
    obtain ⟨-, hcomposed, hbase, -⟩ := Property.toUnion_some_spec v p u
    exact ⟨u, rfl, Option.some.inj (hcomposed.symm.trans h), hbase⟩

theorem baseName_member (c : Context) (owner : String) (required : List String) (name : String)
    (s : Schema) : (Model.member c owner required name s).value.value.baseName = name := by
  have hname : (Property.ofSchema c name s).value.baseName = name :=
    (Property.built_ofSchema c name s).baseName
  rw [value_member_toUnion]
  cases ofMemberUnion? c owner (some name) s with
  | none => exact hname
  | some u => exact (Property.toUnion_some_spec _ _ u).1.trans hname

theorem baseName_of_settled_member {c : Context} {owner : String} {required : List String}
    {e : String × Schema} {p : Property}
    (h : (Model.member c owner required e.1 e.2).value.value.settled = p.settled) :
    e.1 = p.baseName := by
  have hname := congrArg (·.baseName) h
  simp only [Property.baseName_settled, baseName_member] at hname
  exact hname

/-- The neutral conventions leave finished members as they are. -/
theorem keepsMembers_of_neutral {v : Conventions} {unicode : Bool} (hv : v = .neutral unicode) :
    KeepsMembers v := by
  rw [hv]
  exact Conventions.finishProperty_neutral unicode

/-- A member that a schema lists and that stands for a union names a model that fits it. -/
theorem standsForUnion_of_listed {c : Context} (hd : c.document.DistinctSchemas) {owner : String}
    {s : Schema} (hs : c.schema? owner = some s) {e : String × Schema}
    (he : e ∈ (listedMembers c owner s).properties) {required : List String} {p : Property}
    (hp : (Model.member c owner required e.1 e.2).value.value.settled = p.settled) {comp : String}
    (hc : p.composedModel = some comp) :
    e.1 = p.baseName ∧ ∃ composite,
      Entries.lookup? comp (ModelMap.ofDocument c).value = some composite ∧
      StandsForUnion c owner (some e.1) e.2 comp composite ∧
      p.innermost.baseType =
        c.conventions.typeName (.reference (c.conventions.modelName comp)) := by
  refine ⟨baseName_of_settled_member hp, ?_⟩
  have hcomposed := congrArg (·.composedModel) hp
  have hbase := congrArg (·.innermost.baseType) hp
  simp only [Property.composedModel_settled, Property.innermost_settled,
    Property.baseType_settled] at hcomposed hbase
  rw [value_member_toUnion] at hcomposed hbase
  have hnone : ({ (Property.ofSchema c e.1 e.2).value with
      required := required.contains e.1 } : Property).composedModel = none :=
    (Property.built_ofSchema c e.1 e.2).composedModel
  obtain ⟨u, hu, rfl, htype⟩ := union_of_composedModel hnone (hcomposed.trans hc)
  have hmem := mem_unions_of_listed hs he hu
  obtain ⟨composite, hl, hstands⟩ := exists_standsForUnion hd hu hmem
  rw [className_of_ofMemberUnion? hu] at htype
  exact ⟨composite, hl, hstands, hbase.symm.trans htype⟩

/-- So does the property of a schema as a whole. -/
theorem standsForUnion_of_whole {c : Context} (hd : c.document.DistinctSchemas) {owner : String}
    {s : Schema} (hs : c.schema? owner = some s) {p : Property}
    (hp : wholeProperty? c owner s = some p) {comp : String} (hc : p.composedModel = some comp) :
    ∃ composite, Entries.lookup? comp (ModelMap.ofDocument c).value = some composite ∧
      StandsForUnion c owner none s comp composite ∧
      p.innermost.baseType =
        c.conventions.typeName (.reference (c.conventions.modelName comp)) := by
  unfold wholeProperty? at hp
  split at hp
  · next hcontainer =>
    obtain rfl := Option.some.inj hp
    obtain ⟨u, hu, rfl, htype⟩ := union_of_composedModel
      (Property.built_ofSchema c owner s).composedModel hc
    have hmem := mem_unions_of_whole hs hcontainer hu
    obtain ⟨composite, hl, hstands⟩ := exists_standsForUnion hd hu hmem
    rw [className_of_ofMemberUnion? hu] at htype
    exact ⟨composite, hl, hstands, htype⟩
  · exact absurd hp (by simp)

/-- A property that was retyped for a union has the type name of the model under the name of the
union, if that type name is kept when the property is typed by it. -/
theorem StandsForUnion.baseType_eq_className {c : Context} {owner name : String}
    {member : Option String} {t : Schema} {composite : Model} {unicode : Bool} {p : Property}
    (h : StandsForUnion c owner member t name composite) (hv : c.conventions = .neutral unicode)
    (hbase : p.innermost.baseType =
      c.conventions.typeName (.reference (c.conventions.modelName name)))
    (hkept : unicode = false ∨ (Conventions.neutral unicode).KeepsTypeName name) :
    p.innermost.baseType = composite.className := by
  rw [hbase, h.className, hv, Conventions.typeName_reference_neutral]
  rcases hkept with hascii | hkept
  · exact Conventions.keepsTypeName_of_ascii hascii name
  · exact hkept

/-- The schema that a property of a model describes: that of the member of its name, or the schema
of the model for the property of the whole. -/
inductive PropertySchema (c : Context) (owner : String) (s : Schema) (m : Model) (p : Property) :
    Option String → Schema → Prop
  | member {t : Schema} (h : (p.baseName, t) ∈ (listedMembers c owner s).properties) :
      PropertySchema c owner s m p (some p.baseName) t
  | whole (h : m.containerProperty = some p) : PropertySchema c owner s m p none s

end Model

namespace Resolution

open Model

/-- A member of a model, the property of the model as a whole, or one of all its members whose name
its schema lists: if it stands for a union, the union has a name under which the document has a
model that fits it. The end of the property has the type name of that model as long as identifiers
keep to ASCII, and beyond ASCII where that type name is its own type name. -/
theorem composite_of_composedModel {o : Options} {d : Document} {r : Resolution}
    (hd : d.DistinctSchemas) (h : ofDocument o (.neutral o.allowUnicodeIdentifiers) d = .ok r)
    {owner : String} {m : Model} (hm : Entries.lookup? owner r.models = some m) {p : Property}
    (hp : p ∈ m.vars ∨ m.containerProperty = some p ∨ p ∈ m.allVars ∧
      ∃ s, (context o (.neutral o.allowUnicodeIdentifiers) d).schema? owner = some s ∧
        p.baseName ∈ Entries.keys (listedMembers
          (context o (.neutral o.allowUnicodeIdentifiers) d) owner s).properties)
    {comp : String} (hc : p.composedModel = some comp) :
    ∃ s member t composite,
      (context o (.neutral o.allowUnicodeIdentifiers) d).schema? owner = some s ∧
      PropertySchema (context o (.neutral o.allowUnicodeIdentifiers) d) owner s m p member t ∧
      Entries.lookup? comp r.models = some composite ∧
      StandsForUnion (context o (.neutral o.allowUnicodeIdentifiers) d) owner member t comp
        composite ∧
      (o.allowUnicodeIdentifiers = false ∨
          (Conventions.neutral o.allowUnicodeIdentifiers).KeepsTypeName comp →
        p.innermost.baseType = composite.className) := by
  rw [(of_ofDocument h).models] at hm ⊢
  have hd' := distinctSchemas_context o (.neutral o.allowUnicodeIdentifiers) hd
  generalize hcontext : context o (.neutral o.allowUnicodeIdentifiers) d = c at hm hp hd' ⊢
  have hv : c.conventions = .neutral o.allowUnicodeIdentifiers := by rw [← hcontext]; rfl
  have hlisted : ∀ {s : Schema} {e : String × Schema} {required : List String},
      c.schema? owner = some s → e ∈ (listedMembers c owner s).properties →
      (Model.member c owner required e.1 e.2).value.value.settled = p.settled →
      ∃ s member t composite, c.schema? owner = some s ∧ PropertySchema c owner s m p member t ∧
        Entries.lookup? comp (ModelMap.ofDocument c).value = some composite ∧
        StandsForUnion c owner member t comp composite ∧
        (o.allowUnicodeIdentifiers = false ∨
            (Conventions.neutral o.allowUnicodeIdentifiers).KeepsTypeName comp →
          p.innermost.baseType = composite.className) := by
    intro s e required hs he hep
    obtain ⟨hname, composite, hl, hstands, hbase⟩ := standsForUnion_of_listed hd' hs he hep hc
    rcases e with ⟨k, t⟩
    obtain rfl : k = p.baseName := hname
    exact ⟨s, _, t, composite, hs, .member he, hl, hstands,
      hstands.baseType_eq_className hv hbase⟩
  rcases hp with hp | hp | ⟨hp, s, hs, hk⟩
  · obtain ⟨s, hs, e, he, required, hep⟩ :=
      ModelMap.exists_listed_of_mem_vars hd' (keepsMembers_of_neutral hv) hm hp
    exact hlisted hs he hep
  · obtain ⟨s, hs, hwhole⟩ := ModelMap.exists_whole_of_container hd' hm hp
    obtain ⟨composite, hl, hstands, hbase⟩ := standsForUnion_of_whole hd' hs hwhole hc
    exact ⟨s, none, s, composite, hs, .whole hp, hl, hstands,
      hstands.baseType_eq_className hv hbase⟩
  · obtain ⟨s', hs', e, he, required, hep⟩ := ModelMap.exists_collected_of_mem_allVars hd' hm hp
    obtain rfl : s = s' := Option.some.inj (hs.symm.trans hs')
    rw [← baseName_of_settled_member hep] at hk
    exact hlisted hs (mem_listedMembers_of_mem_allMembers he hk) hep

/-- A cat, an owner whose pet is one of the union of cats, and other schemas. -/
def ownerWith (others : Entries Schema) : Document :=
  { components := { schemas := [
      ("Cat", .emptyObject),
      ("Owner", .ofShape (.object
        [("pet", .ofShape (.composed [] [.reference "#/components/schemas/Cat"] [] [] []))]
        []))] ++ others } }

theorem composite_ownerWith_nil :
    ∃ r m p composite, ofDocument {} (.neutral false) (ownerWith []) = .ok r ∧
      Entries.lookup? "Owner" r.models = some m ∧ p ∈ m.vars ∧
      p.composedModel = some "OneOfOwnerPet" ∧
      Entries.lookup? "OneOfOwnerPet" r.models = some composite ∧
      composite.isComposed = true ∧ p.innermost.baseType = composite.className := by
  have hpet : ((model? {} (.neutral false) (ownerWith []) "Owner").bind (·.vars.head?)).bind
      (·.composedModel) = some "OneOfOwnerPet" := by decide +kernel
  obtain ⟨p, hp, hc⟩ := Option.bind_eq_some_iff.mp hpet
  obtain ⟨m, hm, hp⟩ := Option.bind_eq_some_iff.mp hp
  obtain ⟨r, hr, hl⟩ := exists_of_model? hm
  have hvars : p ∈ m.vars := List.mem_of_head? hp
  obtain ⟨s, member, t, composite, -, -, hcomposite, hstands, hbase⟩ :=
    composite_of_composedModel (o := {}) (by decide) hr hl (.inl hvars) hc
  exact ⟨r, m, p, composite, hr, hl, hvars, hc, hcomposite,
    (hstands.ofUnion (by decide +kernel)).1, hbase (.inl rfl)⟩

/-- A schema that has the name of the union already keeps it, and the model under that name is not
a composed one. -/
theorem not_isComposed_ownerWith_taken :
    ∃ r m p taken, ofDocument {} (.neutral false) (ownerWith [("OneOfOwnerPet", .emptyObject)]) =
        .ok r ∧
      Entries.lookup? "Owner" r.models = some m ∧ p ∈ m.vars ∧
      p.composedModel = some "OneOfOwnerPet" ∧
      Entries.lookup? "OneOfOwnerPet" r.models = some taken ∧
      taken.isComposed = false ∧ taken.interfaces = [] := by
  have hpet : ((model? {} (.neutral false) (ownerWith [("OneOfOwnerPet", .emptyObject)])
      "Owner").bind (·.vars.head?)).bind (·.composedModel) = some "OneOfOwnerPet" := by
    decide +kernel
  obtain ⟨p, hp, hc⟩ := Option.bind_eq_some_iff.mp hpet
  obtain ⟨m, hm, hp⟩ := Option.bind_eq_some_iff.mp hp
  obtain ⟨r, hr, hl⟩ := exists_of_model? hm
  have htaken : (model? {} (.neutral false) (ownerWith [("OneOfOwnerPet", .emptyObject)])
      "OneOfOwnerPet").map (fun m => (m.isComposed, m.interfaces)) = some (false, []) := by
    decide +kernel
  obtain ⟨taken, htaken, hfields⟩ := Option.map_eq_some_iff.mp htaken
  have hl' : Entries.lookup? "OneOfOwnerPet" r.models = some taken := by
    simpa [model?, hr] using htaken
  exact ⟨r, m, p, taken, hr, hl, List.mem_of_head? hp, hc, hl', congrArg Prod.fst hfields,
    congrArg Prod.snd hfields⟩

end Resolution

/-! ## The names of unions as types -/

namespace Model

/-- A property without items, retyped for a union, is its own end. -/
theorem innermost_toUnion_of_items_none (v : Conventions) (u : Model) {p : Property}
    (h : p.items = none) : (p.toUnion v (some u)).innermost = p.toUnion v (some u) := by
  rcases p with ⟨facts, items⟩
  obtain rfl : items = none := h
  obtain ⟨facts', hpoint, -⟩ := Property.pointLeaf_spec v u.className facts none
  obtain ⟨facts'', hrefresh, -⟩ := Property.refreshLeaf_spec v facts' none
  have hretype : Property.retype v u.className ⟨facts, none⟩ = ⟨facts'', none⟩ := by
    rw [Property.retype_eq, Property.mapInnermost, hpoint, Property.refresh, hrefresh]
  rw [Property.toUnion, hretype]
  rfl

/-- Where only the reserved words differ from the neutral conventions, and identifiers keep to
ASCII, a type name is its own type name. So a property that is retyped to the model of a union, by
the name of its class, has just that name for its type at the end of its items, and for its own type
where it has no items. -/
theorem modelName_idem_and_baseType_toUnion {v : Conventions} {words : List String}
    (hmodel : v.modelName = (Conventions.reserving words).modelName)
    (htype : v.typeName = (Conventions.reserving words).typeName) :
    (∀ s, v.modelName (v.modelName s) = v.modelName s) ∧
      ∀ (c : Context), c.conventions = v → ∀ (owner : String) (member : Option String)
        (s : Schema) (u : Model), ofMemberUnion? c owner member s = some u →
        ∀ p : Property, (p.toUnion v (some u)).innermost.baseType = u.className ∧
          (p.items = none → (p.toUnion v (some u)).baseType = u.className) := by
  have hidem : ∀ s, v.modelName (v.modelName s) = v.modelName s := by
    intro s
    rw [hmodel]
    exact Conventions.modelName_modelName_reserving words s
  refine ⟨hidem, ?_⟩
  intro c hc owner member s u hu p
  have hclass : u.className = v.modelName u.name := by
    rw [← hc]
    exact className_of_ofMemberUnion? hu
  obtain ⟨-, -, hbase, -⟩ := Property.toUnion_some_spec v p u
  have hend : (p.toUnion v (some u)).innermost.baseType = u.className :=
    calc (p.toUnion v (some u)).innermost.baseType
        = v.typeName (.reference u.className) := hbase
      _ = v.modelName u.className := by
          rw [htype, hmodel]
          rfl
      _ = u.className := by rw [hclass, hidem]
  refine ⟨hend, fun hitems => ?_⟩
  rw [← innermost_toUnion_of_items_none v u hitems]
  exact hend

theorem baseType_toUnion_reserved :
    ∃ c : Context, c.conventions = .reserving ["oneofownerpet"] ∧
      ∃ u, ofMemberUnion? c "Owner" (some "pet")
          (.ofShape (.composed [] [.reference "#/components/schemas/Cat"] [] [] [])) = some u ∧
        u.className = "_OneOfOwnerPet" ∧
        c.conventions.modelName u.className = u.className ∧
        ∀ p : Property, p.items = none →
          (p.toUnion c.conventions (some u)).baseType = "_OneOfOwnerPet" := by
  let c := Resolution.context {} (.reserving ["oneofownerpet"]) (Resolution.ownerWith [])
  have hunion : (ofMemberUnion? c "Owner" (some "pet")
      (.ofShape (.composed [] [.reference "#/components/schemas/Cat"] [] [] []))).map
        (·.className) = some "_OneOfOwnerPet" := by decide +kernel
  obtain ⟨u, hu, hclass⟩ := Option.map_eq_some_iff.mp hunion
  have hmodel : c.conventions.modelName = (Conventions.reserving ["oneofownerpet"]).modelName := rfl
  have htype : c.conventions.typeName = (Conventions.reserving ["oneofownerpet"]).typeName := rfl
  obtain ⟨hidem, hbase⟩ := modelName_idem_and_baseType_toUnion hmodel htype
  have hname : u.className = c.conventions.modelName u.name := className_of_ofMemberUnion? hu
  refine ⟨c, rfl, u, hu, hclass, ?_, fun p hitems => ?_⟩
  · rw [hname, hidem]
  · rw [(hbase c rfl "Owner" (some "pet") _ u hu p).2 hitems, hclass]

end Model
end ApiResolution
