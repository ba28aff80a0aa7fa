import ApiResolution.Parameter.OfDeclaration
import ApiResolution.Proofs.Model.Finished
import ApiResolution.Proofs.Property.EnumNames

/-!
The default values of parameters and of members. Naming the members of an enum writes a default
value that is one of them as that member (`defaultText_nameIfEnum`). A member of a model keeps what
is written there, whatever union it is retyped to. A parameter names the same enum members, and
takes its default value from the schema as it is; the two are the same exactly where nothing is
written (`defaultText_finishedMember_iff`).
-/

namespace ApiResolution

namespace Property

variable {v : Conventions} {unicode : Bool}

/-! ## Writing a default as a member -/

/-- The member, as a default value, that the default value of a property is among the values at the
end of its chain. -/
def memberDefault? (v : Conventions) (p : Property) : Option String :=
  p.innermost.enumValues.bind fun e =>
    (p.defaultText.bind
        (memberOf? e.values (EnumValues.membersOf v e.values p.innermost.datatype))).map
      fun m => v.enumDefault m.name p.datatypeWithEnum

theorem defaultText_mapInnermost {f : Property → Property}
    (hf : ∀ q, (f q).defaultText = q.defaultText) (p : Property) :
    (mapInnermost f p).defaultText = p.defaultText := by
  rcases p with ⟨facts, items⟩
  cases items with
  | none => exact hf _
  | some inner => rfl

theorem defaultText_nameDefault (v : Conventions) (values : List Json) (members : List EnumMember)
    (p : Property) : (nameDefault v values members p).defaultText =
      ((p.defaultText.bind (memberOf? values members)).map
        fun m => v.enumDefault m.name p.datatypeWithEnum).or p.defaultText := by
  unfold nameDefault
  cases p.defaultText.bind (memberOf? values members) <;> rfl

/-- Naming the members of an enum writes the default value as one of them, if it is one. -/
theorem defaultText_nameIfEnum (v : Conventions) {p : Property} (henum : p.isEnum = true) :
    (nameIfEnum v p).defaultText = (p.memberDefault? v).or p.defaultText := by
  have hset : ∀ members q, (setMembers members q).defaultText = q.defaultText := fun _ _ => rfl
  rw [nameIfEnum, if_pos henum]
  unfold nameEnum memberDefault?
  dsimp only
  cases p.innermost.enumValues with
  | none => rfl
  | some e =>
    dsimp only
    rw [defaultText_mapInnermost (hset _), hset]
    exact defaultText_nameDefault v e.values _ p

theorem isSome_memberOf?_iff {values : List Json} {members : List EnumMember}
    (hlength : members.length = values.length) (text : String) :
    (memberOf? values members text).isSome = true ↔ ∃ value ∈ values, plainText value = text := by
  unfold memberOf?
  cases hfound : values.findIdx? fun value => plainText value == text with
  | none =>
    rw [List.findIdx?_eq_none_iff] at hfound
    simpa using hfound
  | some i =>
    obtain ⟨hi, hvalue, -⟩ := List.findIdx?_eq_some_iff_getElem.mp hfound
    rw [Option.bind_some, List.getElem?_eq_getElem (hlength ▸ hi)]
    exact iff_of_true rfl ⟨values[i], List.getElem_mem hi, by simpa using hvalue⟩

/-- A default value is written as a member exactly if it is the text of one of the values at the end
of the chain. -/
theorem isSome_memberDefault?_iff (v : Conventions) (p : Property) :
    (p.memberDefault? v).isSome = true ↔ ∃ e ∈ p.innermost.enumValues, ∃ value ∈ e.values,
      p.defaultText = some (plainText value) := by
  unfold memberDefault?
  cases p.innermost.enumValues with
  | none => simp
  | some e =>
    have hlength :
        (EnumValues.membersOf v e.values p.innermost.datatype).length = e.values.length := by
      have hliterals := congrArg List.length
        (EnumValues.map_literal_membersOf v e.values p.innermost.datatype)
      simpa using hliterals
    cases p.defaultText with
    | none => simp
    | some text =>
      simp only [Option.bind_some, Option.isSome_map, isSome_memberOf?_iff hlength,
        Option.mem_def, Option.some.injEq, exists_eq_left']
      exact exists_congr fun value => and_congr_right fun _ => eq_comm

/-- By the neutral conventions the name of a member does not depend on the type of its enum, so only
the default value, the values at the end and the declared type of an enum count. -/
theorem memberDefault?_congr (hv : v = .neutral unicode) {p q : Property}
    (hdefault : q.defaultText = p.defaultText)
    (hvalues : q.innermost.enumValues = p.innermost.enumValues)
    (htype : p.innermost.enumValues.isSome = true → q.datatypeWithEnum = p.datatypeWithEnum) :
    q.memberDefault? v = p.memberDefault? v := by
  subst hv
  unfold memberDefault?
  rw [hdefault, hvalues]
  cases hlisted : p.innermost.enumValues with
  | none => rfl
  | some e =>
    rw [hlisted] at htype
    rw [htype rfl]
    rfl

/-! ## Default values and types -/

theorem defaultText_refreshLeaf (v : Conventions) (p : Property) :
    (refreshLeaf v p).defaultText = p.defaultText := by
  unfold refreshLeaf
  split <;> rfl

theorem defaultText_setType (v : Conventions) (tag : TypeTag) (p : Property) :
    (setType v tag p).defaultText = p.defaultText :=
  defaultText_refreshLeaf v _

theorem defaultText_refresh (v : Conventions) (p : Property) :
    (refresh v p).defaultText = p.defaultText := by
  rcases p with ⟨facts, items⟩
  cases items with
  | none => exact defaultText_refreshLeaf v _
  | some inner =>
    rw [refresh, around]
    dsimp only
    split <;> rfl

/-- The property of a schema has the default value of the schema. -/
theorem defaultText_ofSchema (c : Context) (name : String) (s : Schema) :
    (ofSchema c name s).value.defaultText = c.conventions.defaultText s := by
  refine ofSchemaAt_induct (P := fun _ _ s built =>
    built.value.defaultText = c.conventions.defaultText s) ?_ ?_ ?_ 0 name s
  · exact fun _ name s _ => defaultText_setType _ _ _
  · intro _ name s _ _
    rw [value_leaf]
    exact defaultText_setType _ _ _
  · intro _ name s kind items inner built _ _ _ _ hbuilt
    rw [hbuilt.value]
    exact defaultText_refresh _ _

/-! ## Default values and unions -/

theorem innermost_retype_eq (v : Conventions) (model : String) (p : Property) :
    (retype v model p).innermost = refreshLeaf v (pointLeaf v model p.innermost) := by
  have hitems : (pointLeaf v model p.innermost).items = none := by
    rw [← innermost_items p]
    exact congrArg (·.2.2.2) (kept_pointLeaf v model p.innermost)
  rw [retype_eq, innermost_refresh, innermost_mapInnermost, innermost_eq_self hitems]

theorem kept_innermost_retype (v : Conventions) (model : String) (p : Property) :
    (retype v model p).innermost.kept = p.innermost.kept := by
  rw [innermost_retype_eq, kept_refreshLeaf, kept_pointLeaf]

theorem name_innermost_retype (v : Conventions) (model : String) (p : Property) :
    (retype v model p).innermost.name = p.innermost.name := by
  rw [innermost_retype_eq, name_refreshLeaf]
  exact name_setType v _ _

theorem defaultText_retype (v : Conventions) (model : String) (p : Property) :
    (retype v model p).defaultText = p.defaultText := by
  rw [retype_eq, defaultText_refresh, defaultText_mapInnermost]
  exact fun q => defaultText_setType v _ q

/-- A chain that ends in an enum declares that enum inside its containers, whatever model its end is
pointed at. -/
theorem datatypeWithEnum_retype (hv : v = .neutral unicode) (model : String) {p : Property}
    {ks : List ContainerKind} (hkinds : p.kinds = ks ++ [.none])
    (hcontainers : ContainerKind.none ∉ ks) (henum : p.innermost.isEnum = true) :
    (retype v model p).datatypeWithEnum = p.declares v (v.enumName p.innermost) := by
  have hformed := formed_mapInnermost_pointLeaf (v := v) hkinds hcontainers model
  have hcoherent : Coherent v (retype v model p) :=
    coherent_refresh hformed (primitiveByType_mapInnermost_pointLeaf v model p)
  have hend : (retype v model p).innermost.isEnum = true :=
    (congrArg (·.2.1) (kept_innermost_retype v model p)).trans henum
  have hnamed : EnumNamed v (retype v model p) :=
    enumNamed_refresh hv hformed ((isEnum_innermost_refresh v _).symm.trans hend)
  have hname : v.enumName (retype v model p).innermost = v.enumName p.innermost := by
    rw [hv]
    exact enumName_congr unicode (name_innermost_retype _ model p)
  have hkept : (retype v model p).kinds = p.kinds := by
    rw [retype_eq, kinds_refresh, kinds_mapInnermost (kinds_pointLeaf v model)]
  rw [datatypeWithEnum_eq_declares hv hcoherent hend, hnamed.innermost, hname, declares, hkept,
    declares]

theorem isEnum_retype (v : Conventions) (model : String) {p : Property} (henum : p.isEnum = true) :
    (retype v model p).isEnum = true := by
  rcases p with ⟨facts, items⟩
  rw [retype_eq]
  cases items with
  | none =>
    have hkept := kept_pointLeaf v model ⟨facts, none⟩
    obtain ⟨facts', heq, -⟩ := pointLeaf_spec v model facts none
    rw [heq, ← kept_refreshLeaf v] at hkept
    rw [mapInnermost, heq, refresh]
    exact (congrArg (·.2.1) hkept).trans henum
  | some inner =>
    have hkept := kept_around v facts (refresh v (mapInnermost (pointLeaf v model) inner))
    refine (congrArg (·.2.1) hkept).trans ?_
    split
    · rfl
    · exact henum

/-- The property of a schema that ends in an enum declares that enum inside its containers. -/
theorem datatypeWithEnum_ofSchema {c : Context} (hv : c.conventions = .neutral unicode)
    (name : String) (s : Schema) (henum : (ofSchema c name s).value.innermost.isEnum = true) :
    (ofSchema c name s).value.datatypeWithEnum = (ofSchema c name s).value.declares c.conventions
      (c.conventions.enumName (ofSchema c name s).value.innermost) := by
  have hnamed : EnumNamed c.conventions (ofSchema c name s).value :=
    enumNamed_ofSchemaAt hv 0 name s henum
  rw [← hnamed.innermost]
  exact datatypeWithEnum_eq_declares hv (coherent_ofSchemaAt c 0 name s) henum

/-- What is written for a default value does not change with the model that the end is pointed
at. -/
theorem memberDefault?_toUnion (hv : v = .neutral unicode) {p : Property} {ks : List ContainerKind}
    (hkinds : p.kinds = ks ++ [.none]) (hcontainers : ContainerKind.none ∉ ks)
    (hlists : p.innermost.isEnum = p.innermost.enumValues.isSome)
    (htype : p.innermost.isEnum = true →
      p.datatypeWithEnum = p.declares v (v.enumName p.innermost)) (union : Option Model) :
    (p.toUnion v union).memberDefault? v = p.memberDefault? v := by
  cases union with
  | none => rfl
  | some u =>
    have hmodel : (p.toUnion v (some u)).memberDefault? v =
        (retype v u.className p).memberDefault? v := by
      rw [toUnion]
      generalize retype v u.className p = q
      rcases q with ⟨facts, items⟩
      cases items <;> exact memberDefault?_congr hv rfl rfl fun _ => rfl
    rw [hmodel]
    -- The default value and the listed values are kept, so only the declared type is left.
    refine memberDefault?_congr hv (defaultText_retype ..)
      (congrArg (·.2.2.1) (kept_innermost_retype ..)) fun hlisted => ?_
    have henum : p.innermost.isEnum = true := hlists.trans hlisted
    rw [datatypeWithEnum_retype hv u.className hkinds hcontainers henum, htype henum]

/-- Whether a member is required has no effect on its containers and on the end of its chain. -/
theorem setRequired_ends (p : Property) (required : Bool) :
    let q : Property := { p with required }
    q.kinds = p.kinds ∧ q.innermost.kept = p.innermost.kept ∧
      q.innermost.name = p.innermost.name := by
  rcases p with ⟨facts, items⟩
  cases items <;> exact ⟨rfl, rfl, rfl⟩

theorem declares_setRequired (hv : v = .neutral unicode) (p : Property) (required : Bool) :
    let q : Property := { p with required }
    q.declares v (v.enumName q.innermost) = p.declares v (v.enumName p.innermost) := by
  intro q
  obtain ⟨hkinds, -, hname⟩ := setRequired_ends p required
  have henumName : v.enumName q.innermost = v.enumName p.innermost := by
    rw [hv]
    exact enumName_congr unicode hname
  rw [declares, henumName, hkinds, declares]

end Property

namespace Model

variable {c : Context} {unicode : Bool}

/-- What is written for the default value of a member is what would be written for that of the
property of its schema, whatever union the member is retyped to. -/
theorem memberDefault?_member (hv : c.conventions = .neutral unicode) (model : String)
    (required : List String) (name : String) (s : Schema) :
    (member c model required name s).value.value.memberDefault? c.conventions =
      (Property.ofSchema c name s).value.memberDefault? c.conventions := by
  have hkinds : (Property.ofSchema c name s).value.kinds = _ := Property.kinds_ofSchemaAt c 0 name s
  have hcontainers := s.none_not_mem_take_containers (Property.maxDepth + 1)
  have hunnamed := (Property.enumsFormed_ofSchema c name s).innermost.unnamed
  have htype := Property.datatypeWithEnum_ofSchema hv name s
  rw [value_member_toUnion]
  generalize (Property.ofSchema c name s).value = p at hkinds hunnamed htype ⊢
  obtain ⟨hkinds', hkept, -⟩ := Property.setRequired_ends p (required.contains name)
  have hdeclares := Property.declares_setRequired hv p (required.contains name)
  have hlists : p.innermost.kept.2.1 = p.innermost.kept.2.2.1.isSome := hunnamed.isEnum
  rw [← hkept] at hlists
  refine (Property.memberDefault?_toUnion hv (hkinds'.trans hkinds) hcontainers hlists
    (fun henum => ?_) _).trans ?_
  · rw [hdeclares]
    exact htype ((congrArg (·.2.1) hkept).symm.trans henum)
  · exact Property.memberDefault?_congr hv rfl (congrArg (·.2.2.1) hkept) fun _ => rfl

/-- The default value of a member in the end is written as a member of its enum, if it is one. -/
theorem defaultText_finishedMember (hv : c.conventions = .neutral unicode) (model : String)
    (required : List String) (name : String) (s : Schema)
    (henum : (Property.ofSchema c name s).value.isEnum = true) :
    (finishedMember c model required name s).defaultText =
      ((Property.ofSchema c name s).value.memberDefault? c.conventions).or
        (c.conventions.defaultText s) := by
  have hmember : (member c model required name s).value.value.isEnum = true ∧
      (member c model required name s).value.value.defaultText = c.conventions.defaultText s := by
    rw [value_member_toUnion, ← Property.defaultText_ofSchema c name s]
    cases ofMemberUnion? c model (some name) s with
    | none => exact ⟨henum, rfl⟩
    | some u => exact ⟨Property.isEnum_retype _ _ henum, Property.defaultText_retype ..⟩
  calc (finishedMember c model required name s).defaultText
      = (Property.nameIfEnum c.conventions
          (member c model required name s).value.value).defaultText := rfl
    _ = _ := by
        rw [Property.defaultText_nameIfEnum _ hmember.1, hmember.2, memberDefault?_member hv]

end Model
namespace Parameter

variable {c : Context} {unicode : Bool} {d : ParameterObject} {s : Schema}
  {contentType : Option String}

/-- A declaration at a location that keeps default values has that of its schema. -/
theorem defaultText_ofDeclaration (hv : c.conventions = .neutral unicode)
    (hs : d.effectiveSchema? = some (s, contentType))
    (hkeeps : keepsDefault (ParameterLocation.ofKeyword? d.location) = true) :
    (ofDeclaration c d).value.value.defaultText = c.conventions.defaultText s := by
  have hfinish : c.conventions.finishParameter = id := by
    rw [hv]
    rfl
  unfold ofDeclaration
  rw [hs]
  unfold ofSchema
  simp only [Noted.value_bind, Noted.value_pure, hfinish, id]
  exact if_pos hkeeps

/-- By the neutral conventions a parameter that keeps default values has that of its schema, and
what a model has as the default value of a member of the same name and schema is written as a member
of its enum wherever it is the text of one of the listed values. So the two are the same exactly if
it is none of them, or happens to be the text that is written for it. -/
theorem defaultText_finishedMember_iff (hv : c.conventions = .neutral unicode)
    (hs : d.effectiveSchema? = some (s, contentType))
    (hkeeps : keepsDefault (ParameterLocation.ofKeyword? d.location) = true)
    (henum : (Property.ofSchema c d.name s).value.isEnum = true) (model : String)
    (required : List String) :
    let built := (Property.ofSchema c d.name s).value
    let p := (ofDeclaration c d).value.value
    let m := Model.finishedMember c model required d.name s
    p.defaultText = c.conventions.defaultText s ∧
      m.defaultText = (built.memberDefault? c.conventions).or p.defaultText ∧
      ((built.memberDefault? c.conventions).isSome = true ↔
        ∃ e ∈ built.innermost.enumValues, ∃ value ∈ e.values,
          p.defaultText = some (plainText value)) ∧
      (p.defaultText = m.defaultText ↔
        ∀ written ∈ built.memberDefault? c.conventions, p.defaultText = some written) := by
  intro built p m
  have hp : p.defaultText = c.conventions.defaultText s := defaultText_ofDeclaration hv hs hkeeps
  have hm : m.defaultText = (built.memberDefault? c.conventions).or p.defaultText := by
    rw [hp]
    exact Model.defaultText_finishedMember hv model required d.name s henum
  have hbuilt : built.defaultText = p.defaultText := by
    rw [hp]
    exact Property.defaultText_ofSchema c d.name s
  refine ⟨hp, hm, ?_, ?_⟩
  · rw [← hbuilt]
    exact Property.isSome_memberDefault?_iff c.conventions built
  · rw [hm]
    cases built.memberDefault? c.conventions <;> simp

/-- A filter by the state of a lamp, which is on or off, with a default value. -/
def lampFilter (state : String) : ParameterObject where
  name := "status"
  location := "query"
  schema := some { Property.onOff with defaultValue := some (.string state) }

/-- A default value that is not listed is left as it is on both sides. -/
theorem defaultText_finishedMember_idle :
    let c : Context := { options := {}, conventions := .neutral false, document := {} }
    let s : Schema := { Property.onOff with defaultValue := some (.string "idle") }
    (lampFilter "idle").effectiveSchema? = some (s, none) ∧
      keepsDefault (ParameterLocation.ofKeyword? (lampFilter "idle").location) = true ∧
      (Property.ofSchema c "status" s).value.isEnum = true ∧
      (ofDeclaration c (lampFilter "idle")).value.value.defaultText =
        (Model.finishedMember c "Lamp" [] "status" s).defaultText := by
  intro c s
  have hkeeps : keepsDefault (ParameterLocation.ofKeyword? (lampFilter "idle").location) = true :=
    by decide +kernel
  have henum : (Property.ofSchema c "status" s).value.isEnum = true := by decide +kernel
  have hnone : (Property.ofSchema c "status" s).value.memberDefault? c.conventions = none := by
    decide +kernel
  obtain ⟨-, -, -, hsame⟩ := defaultText_finishedMember_iff (c := c) (d := lampFilter "idle") rfl
    rfl hkeeps henum "Lamp" []
  have hmembers : ∀ written ∈ (Property.ofSchema c "status" s).value.memberDefault? c.conventions,
      (ofDeclaration c (lampFilter "idle")).value.value.defaultText = some written := by
    simp [hnone]
  exact ⟨rfl, hkeeps, henum, hsame.mpr hmembers⟩

/-- A listed default value is written as a member of the enum in the model only. -/
theorem defaultText_finishedMember_on :
    let c : Context := { options := {}, conventions := .neutral false, document := {} }
    let s : Schema := { Property.onOff with defaultValue := some (.string "on") }
    keepsDefault (ParameterLocation.ofKeyword? (lampFilter "on").location) = true ∧
      (Property.ofSchema c "status" s).value.isEnum = true ∧
      (ofDeclaration c (lampFilter "on")).value.value.defaultText = some "on" ∧
      (Model.finishedMember c "Lamp" [] "status" s).defaultText = some "StatusEnum.on" := by
  decide +kernel

end Parameter
end ApiResolution
