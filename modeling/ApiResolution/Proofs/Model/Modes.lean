import ApiResolution.Proofs.Model.FlatMembers

/-!
The same members in two composition modes. Under inheritance a combination lists beside its own
members those that it inherits, and in the flat mode all of them are its own. Both merge the same
schemas, only in another order: what stands twice is declared again by the combination's own schemas
(`exists_merged`), so the last declaration of each name is the same one, and so is what is required
(`perm_allVars_vars_flat`).
-/

namespace ApiResolution
namespace Members

variable {before own again : List Schema}

/-- What is declared again later may be left out before. -/
theorem lookup?_add_of_subset (hagain : again ⊆ own) (key : String) :
    Entries.lookup? key (((before ++ again).foldl addOwn {}).add
        (own.foldl addOwn {}).properties (own.foldl addOwn {}).required).properties =
      Entries.lookup? key ((before ++ own).foldl addOwn {}).properties := by
  have hempty : Entries.lookup? key ({} : Members).properties = none := rfl
  have hnodup : (Entries.keys (own.foldl addOwn {}).properties).Nodup :=
    nodup_keys_foldl_addOwn own
  rw [add, lookup?_insertAll, Entries.lookup?_reverse hnodup]
  simp only [lookup?_foldl_addOwn, hempty, Option.or_none, declaration?_append]
  cases hown : declaration? key own with
  | some s => rfl
  | none =>
    have hnone : declaration? key again = none := by
      rw [declaration?_eq_none_iff] at hown ⊢
      exact fun s hs => hown s (hagain hs)
    simp [hnone]

theorem mem_required_add_of_subset (hagain : again ⊆ own) {name : String} :
    name ∈ (((before ++ again).foldl addOwn {}).add (own.foldl addOwn {}).properties
        (own.foldl addOwn {}).required).required ↔
      name ∈ ((before ++ own).foldl addOwn {}).required := by
  have hrequired : ∀ ms ms' : Members, name ∈ (ms.add ms'.properties ms'.required).required ↔
      name ∈ ms'.required ∨ name ∈ ms.required := fun _ _ => mem_insertTexts
  rw [hrequired]
  simp only [mem_required_foldl_addOwn, List.mem_append, or_and_right, exists_or]
  constructor
  · rintro ((h | h) | ((h | ⟨s, hs, hname⟩) | h))
    · exact .inl (.inr h)
    · exact .inr h
    · exact .inl (.inl h)
    · exact .inl (.inr ⟨s, hagain hs, hname⟩)
    · exact .inr h
  · rintro ((h | h) | h)
    · exact .inr (.inl (.inl h))
    · exact .inl (.inl h)
    · exact .inl (.inr h)

end Members

namespace Model

open Members

variable {c : Context} {o : Options}

/-- Under inheritance the members that a combination takes for its own are those of some schemas, and
those that it inherits are of schemas before them and of schemas among them. In the flat mode it
takes the schemas before and its own ones. -/
theorem exists_merged (hinheritance : c.options.composition = .inheritance)
    (hflat : o.composition = .flat) (self : String) (allOf : List Schema) (s : Schema) :
    ∃ before own again : List Schema, again ⊆ own ∧
      inheritedMembers c self allOf = (before ++ again).foldl addOwn {} ∧
      ownMembers c self allOf s = own.foldl addOwn {} ∧
      ownMembers (c.withOptions o) self allOf s = (before ++ own).foldl addOwn {} := by
  have hown : ownMembers c self allOf s =
      (taken c self .inheritance allOf ++ [s]).foldl addOwn {} := by
    rw [← hinheritance]
    exact ownMembers_eq c c.options self allOf s
  have hflat' : ownMembers (c.withOptions o) self allOf s =
      (taken c self .flat allOf ++ [s]).foldl addOwn {} := by
    rw [← hflat]
    exact ownMembers_eq c o self allOf s
  rw [hown, hflat', inheritedMembers_eq]
  cases allOf with
  | nil => exact ⟨[], [s], [], List.nil_subset _, rfl, rfl, rfl⟩
  | cons b bs =>
    -- The further branches are taken in the same way in both modes.
    have hmode : takenFrom c self .inheritance .mixins = takenFrom c self .flat .mixins := by
      funext b
      unfold takenFrom
      cases c.refName? b <;> rfl
    have hsubset : (bs.filter fun b => (c.refName? b).isSome).flatMap (passedFrom c self) ⊆
        bs.flatMap (takenFrom c self .flat .mixins) := by
      intro t ht
      obtain ⟨b, hb, ht⟩ := List.mem_flatMap.mp ht
      obtain ⟨hb, hsome⟩ := List.mem_filter.mp hb
      exact List.mem_flatMap.mpr ⟨b, hb, (mem_takenFrom_flat (by simp)).mpr (.inr ⟨hsome, ht⟩)⟩
    generalize hrest : bs.flatMap (takenFrom c self .flat .mixins) = rest at hsubset
    have hsubset' : ∀ ss : List Schema,
        (bs.filter fun b => (c.refName? b).isSome).flatMap (passedFrom c self) ⊆
          ss ++ rest ++ [s] :=
      fun ss _ ht => List.mem_append_left _ (List.mem_append_right _ (hsubset ht))
    rw [taken, taken, hmode, hrest]
    cases hn : c.refName? b with
    | none =>
      have hself : ∀ mode, takenFrom c self mode .inheritance b = [b] := by
        intro mode
        rw [takenFrom, hn]
      rw [hself, hself, List.filter_cons_of_neg (by simp [hn])]
      exact ⟨[], [b] ++ rest ++ [s], _, hsubset' [b], rfl, rfl, rfl⟩
    | some name =>
      have hleft : takenFrom c self .inheritance .inheritance b = [] := by
        rw [takenFrom, hn]
        rfl
      have hall : takenFrom c self .flat .inheritance b = passedFrom c self b := by
        rw [takenFrom, hn]
        rfl
      rw [hleft, hall, List.filter_cons_of_pos (by simp [hn]), List.flatMap_cons]
      exact ⟨passedFrom c self b, [] ++ rest ++ [s], _, hsubset' [], rfl, rfl,
        by rw [List.nil_append, List.append_assoc]⟩

theorem finishedMember_withOptions (c : Context) (o : Options) (model : String)
    {required required' : List String} (h : ∀ name, name ∈ required ↔ name ∈ required')
    (name : String) (s : Schema) :
    finishedMember (c.withOptions o) model required name s =
      finishedMember c model required' name s := by
  have hcontains : required.contains name = required'.contains name := by
    rw [Bool.eq_iff_iff, List.contains_iff_mem, List.contains_iff_mem, h]
  rw [finishedMember, member_withOptions, value_member, hcontains]
  rfl

/-- The members that a combination collects under inheritance are those that it lists in the flat
mode, up to their order. -/
theorem perm_finishedMembers (hinheritance : c.options.composition = .inheritance)
    (hflat : o.composition = .flat) (self : String) {s : Schema} (hcomposed : s.isComposed = true) :
    ((allMembers c self s).properties.map fun e =>
        finishedMember c self (allMembers c self s).required e.1 e.2).Perm
      ((listedMembers (c.withOptions o) self s).properties.map fun e =>
        finishedMember (c.withOptions o) self (listedMembers (c.withOptions o) self s).required
          e.1 e.2) := by
  rcases s with ⟨a, shape⟩
  cases shape with
  | composed allOf oneOf anyOf ps rs =>
    generalize hs : (⟨a, .composed allOf oneOf anyOf ps rs⟩ : Schema) = s
    obtain ⟨before, own, again, hagain, hinherited, hown, hlisted⟩ :=
      exists_merged hinheritance hflat self allOf s
    have hall : allMembers c self s = ((before ++ again).foldl addOwn {}).add
        (own.foldl addOwn {}).properties (own.foldl addOwn {}).required := by
      rw [← hinherited, ← hown, ← hs]
      exact if_pos hinheritance
    have hlist : listedMembers (c.withOptions o) self s = (before ++ own).foldl addOwn {} := by
      rw [← hlisted, ← hs]
      rfl
    rw [hall, hlist]
    have hperm := Entries.perm_of_lookup?_eq
      (Entries.nodup_keys_foldl_insert _ (nodup_keys_foldl_addOwn (before ++ again)))
      (nodup_keys_foldl_addOwn (before ++ own))
      (lookup?_add_of_subset hagain)
    refine (hperm.map _).trans (List.Perm.of_eq (List.map_congr_left fun e _ => ?_))
    exact (finishedMember_withOptions c o self
      (fun _ => (mem_required_add_of_subset hagain).symm) e.1 e.2).symm
  | _ => exact absurd hcomposed (by simp [Schema.isComposed])

end Model

/-- The options with all members of combinations their own. -/
def Options.flat (o : Options) : Options :=
  { o with supportsInheritance := false, supportsMixins := false }

namespace Resolution

open Model

/-- A combination has the same members with their names, types, values and marks as required in two
resolutions that differ in the mode only: those that it lists beside its own ones under inheritance
and those that it lists in the flat mode. Only their order differs, and no name stands twice. -/
theorem perm_allVars_vars_flat {o : Options} {v : Conventions} {d : Document} {r r' : Resolution}
    (hd : d.DistinctSchemas) (hinheritance : o.supportsInheritance = true) (hv : KeepsMembers v)
    (h : ofDocument o v d = .ok r) (h' : ofDocument o.flat v d = .ok r') {owner : String}
    {s : Schema} (hs : (context o v d).schema? owner = some s) (hcomposed : s.isComposed = true) :
    ∃ m m', Entries.lookup? owner r.models = some m ∧
      Entries.lookup? owner r'.models = some m' ∧
      (m.allVars.map Property.unmarked).Perm (m'.vars.map Property.unmarked) ∧
      (m.allVars.map (·.baseName)).Nodup ∧ (m'.vars.map (·.baseName)).Nodup := by
  rw [(of_ofDocument h).models, (of_ofDocument h').models]
  have hmode : (context o v d).options.composition = .inheritance := if_pos hinheritance
  have hd' := distinctSchemas_context o v hd
  obtain ⟨m, hm, hall⟩ := ModelMap.exists_allVars_ofDocument hd' hs
  obtain ⟨m', hm', hvars⟩ := ModelMap.exists_vars_ofDocument (c := context o.flat v d) hd' rfl hv hs
  obtain ⟨m'', hm'', hnames⟩ := ModelMap.exists_names_ofDocument (c := context o.flat v d) hd' rfl
    (fun m p => congrArg (·.baseName) (hv m p)) hs
  obtain rfl : m' = m'' := Option.some.inj (hm'.symm.trans hm'')
  have hperm : (m.allVars.map Property.unmarked).Perm (m'.vars.map Property.unmarked) := by
    rw [hall, hvars]
    exact perm_finishedMembers (o := o.flat) hmode rfl owner hcomposed
  have hnodup : (m'.vars.map (·.baseName)).Nodup := by
    rw [hnames]
    exact nodup_keys_listedMembers hcomposed
  refine ⟨m, m', hm, hm', hperm, ?_, hnodup⟩
  have hbase : ∀ ps : List Property,
      (ps.map Property.unmarked).map (·.baseName) = ps.map (·.baseName) := by
    intro ps
    rw [List.map_map]
    rfl
  have hpermNames := hperm.map (·.baseName)
  rw [hbase, hbase] at hpermNames
  exact hpermNames.nodup_iff.mpr hnodup

/-- A schema of pets, and a combination of it that declares one of its members again, as one of two
values, and requires the other one. -/
def speciesPets : Document :=
  { components := { schemas := [
      ("Pet", .ofShape (.object [("kind", .scalar .string), ("name", .scalar .string)] ["kind"])),
      ("Cat", .ofShape (.composed [.reference "#/components/schemas/Pet",
        .ofShape (.object
          [("age", .scalar .integer),
            ("kind", { shape := .scalar .string, enumValues := [.string "cat", .string "lion"] })]
          ["name"])] [] [] [] []))] } }

theorem perm_allVars_vars_flat_speciesPets :
    ∃ r r' m m', ofDocument { supportsInheritance := true } (.neutral false) speciesPets = .ok r ∧
      ofDocument {} (.neutral false) speciesPets = .ok r' ∧
      Entries.lookup? "Cat" r.models = some m ∧ Entries.lookup? "Cat" r'.models = some m' ∧
      m.vars.map (·.baseName) = ["age", "kind"] ∧
      m'.vars.map (·.baseName) = ["kind", "name", "age"] ∧
      (m.allVars.map Property.unmarked).Perm (m'.vars.map Property.unmarked) := by
  have howned : (model? { supportsInheritance := true } (.neutral false) speciesPets "Cat").map
      (fun m => m.vars.map (·.baseName)) = some ["age", "kind"] := by decide +kernel
  have hflat : (model? {} (.neutral false) speciesPets "Cat").map
      (fun m => m.vars.map (·.baseName)) = some ["kind", "name", "age"] := by decide +kernel
  obtain ⟨m, hm, howned⟩ := Option.map_eq_some_iff.mp howned
  obtain ⟨m', hm', hflat⟩ := Option.map_eq_some_iff.mp hflat
  obtain ⟨r, hr, hl⟩ := exists_of_model? hm
  obtain ⟨r', hr', hl'⟩ := exists_of_model? hm'
  obtain ⟨s, hs, hcomposed⟩ : ∃ s,
      (context { supportsInheritance := true } (.neutral false) speciesPets).schema? "Cat" = some s ∧
      s.isComposed = true := ⟨_, rfl, rfl⟩
  obtain ⟨n, n', hn, hn', hperm, -⟩ := perm_allVars_vars_flat (d := speciesPets) (by decide) rfl
    (keepsMembers_of_neutral rfl) hr hr' hs hcomposed
  obtain rfl : m = n := Option.some.inj (hl.symm.trans hn)
  obtain rfl : m' = n' := Option.some.inj (hl'.symm.trans hn')
  exact ⟨r, r', m, m', hr, hr', hl, hl', howned, hflat, hperm⟩

end Resolution
end ApiResolution
