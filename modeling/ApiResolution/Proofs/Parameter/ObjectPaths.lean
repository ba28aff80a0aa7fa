import ApiResolution.Proofs.Context.Chains
import ApiResolution.Proofs.Parameter.DeepObject

/-!
The named schemas on the way to a parameter of a deep object. A `Way` leads through properties to a
parameter, with one chain of references for each schema that is entered. Flattening keeps exactly
the ways on which no two chains begin with the same name (`Flattens.mem_iff`). Whether a name is
passed twice on a way depends on the ends of the chains instead, and on the chain of the parameter
itself (`mem_deepObject_iff`).
-/

namespace ApiResolution

namespace ParameterObject

variable {c : Context} {d : ParameterObject}

/-- A reference has no properties of its own. -/
theorem refName?_of_hasMembers {s : Schema} (h : hasMembers s = true) : c.refName? s = none := by
  rcases s with ⟨a, shape⟩
  cases shape with
  | reference => exact absurd h (by simp [hasMembers, Schema.properties?, Shape.properties?])
  | _ => rfl

/-- A schema whose properties are found leads to them over a chain of references. -/
theorem exists_chain {s : Schema} (h : hasMembers (c.dereference s) = true) :
    ∃ names, c.Chain s names (c.dereference s) := by
  cases hend : c.chainEnd? Context.maxHops [] s with
  | some t =>
    rw [Context.dereference, hend, Option.getD_some]
    obtain ⟨names, hchain, -⟩ := Context.chainEnd?_eq_some_iff.mp hend
    exact ⟨names, hchain⟩
  | none =>
    -- What is given back without an end has properties, so it is no reference.
    have hself : c.dereference s = s := by rw [Context.dereference, hend, Option.getD_none]
    rw [hself] at h ⊢
    exact ⟨[], .here (refName?_of_hasMembers h)⟩

/-! ## Ways to a parameter -/

/-- A way through properties to the parameter of one of them. For each property on the way that is
entered, it has the names on the chain of references of that property. -/
inductive Way (c : Context) (d : ParameterObject) :
    String → List String → Entries Schema → List (List String) → ParameterObject → Prop
  | leaf {path : String} {required : List String} {ps : Entries Schema} {name : String}
      {s : Schema} (hmem : (name, s) ∈ ps) (hmembers : hasMembers (c.dereference s) = false) :
    Way c d path required ps [] (d.leaf path name required s (c.dereference s))
  | enter {path : String} {required : List String} {ps : Entries Schema} {name : String}
      {s : Schema} {names : List String} {route : List (List String)} {p : ParameterObject}
      (hmem : (name, s) ∈ ps) (hmembers : hasMembers (c.dereference s) = true)
      (hchain : c.Chain s names (c.dereference s))
      (hrest : Way c d (memberPath path name) (c.dereference s).required
        (c.dereference s).shape.members route p) :
    Way c d path required ps (names :: route) p

/-- The names that the properties on a way refer to themselves. -/
def entrances (route : List (List String)) : List String := route.filterMap List.head?

/-- The names whose schemas have the properties that are entered on a way. -/
def destinations (route : List (List String)) : List String := route.filterMap List.getLast?

section Ways

variable {path : String} {required : List String} {ps : Entries Schema}
  {route : List (List String)} {p : ParameterObject}

theorem Way.chains (h : Way c d path required ps route p) :
    ∀ names ∈ route, ∃ s t, c.Chain s names t := by
  induction h with
  | leaf => simp
  | enter _ _ hchain _ ih => exact List.forall_mem_cons.mpr ⟨⟨_, _, hchain⟩, ih⟩

theorem Way.mono {ps' : Entries Schema} (hps : ps ⊆ ps') (h : Way c d path required ps route p) :
    Way c d path required ps' route p := by
  cases h with
  | leaf hmem hmembers => exact .leaf (hps hmem) hmembers
  | enter hmem hmembers hchain hrest => exact .enter (hps hmem) hmembers hchain hrest

/-- A property without properties of its own is a way, beside those through the others. -/
theorem way_cons_leaf_iff {name : String} {s : Schema}
    (h : hasMembers (c.dereference s) = false) :
    Way c d path required ((name, s) :: ps) route p ↔
      (route = [] ∧ p = d.leaf path name required s (c.dereference s)) ∨
        Way c d path required ps route p := by
  constructor
  · rintro (⟨hmem, hmembers⟩ | ⟨hmem, hmembers, hchain, hrest⟩)
    · rcases List.mem_cons.mp hmem with heq | hmem
      · obtain ⟨rfl, rfl⟩ := Prod.mk.inj heq
        exact .inl ⟨rfl, rfl⟩
      · exact .inr (.leaf hmem hmembers)
    · rcases List.mem_cons.mp hmem with heq | hmem
      · obtain ⟨rfl, rfl⟩ := Prod.mk.inj heq
        exact absurd hmembers (by simp [h])
      · exact .inr (.enter hmem hmembers hchain hrest)
  · rintro (⟨rfl, rfl⟩ | hrest)
    · exact .leaf List.mem_cons_self h
    · exact hrest.mono (List.subset_cons_self _ _)

/-- A property that is entered begins the ways through it, beside those through the others. -/
theorem way_cons_enter_iff {name : String} {s : Schema} {names : List String}
    (h : hasMembers (c.dereference s) = true) (hchain : c.Chain s names (c.dereference s)) :
    Way c d path required ((name, s) :: ps) route p ↔
      (∃ rest, route = names :: rest ∧ Way c d (memberPath path name)
        (c.dereference s).required (c.dereference s).shape.members rest p) ∨
        Way c d path required ps route p := by
  constructor
  · rintro (⟨hmem, hmembers⟩ | ⟨hmem, hmembers, hchain', hrest⟩)
    · rcases List.mem_cons.mp hmem with heq | hmem
      · obtain ⟨rfl, rfl⟩ := Prod.mk.inj heq
        exact absurd hmembers (by simp [h])
      · exact .inr (.leaf hmem hmembers)
    · rcases List.mem_cons.mp hmem with heq | hmem
      · obtain ⟨rfl, rfl⟩ := Prod.mk.inj heq
        obtain ⟨rfl, -⟩ := hchain.unique hchain'
        exact .inl ⟨_, rfl, hrest⟩
      · exact .inr (.enter hmem hmembers hchain' hrest)
  · rintro (⟨rest, rfl, hrest⟩ | hrest)
    · exact .enter List.mem_cons_self h hchain hrest
    · exact hrest.mono (List.subset_cons_self _ _)

end Ways

/-- No name is entered twice on a way, nor one of those that were entered above it. -/
def Fresh (entered : List String) (route : List (List String)) : Prop :=
  (entrances route).Nodup ∧ ∀ key ∈ entrances route, key ∉ entered

theorem fresh_cons_iff {entered names : List String} {route : List (List String)} :
    Fresh entered (names :: route) ↔
      (∀ key, names.head? = some key → key ∉ entered) ∧
        Fresh (names.head?.toList ++ entered) route := by
  unfold Fresh
  cases names with
  | nil => simp [entrances, List.filterMap_cons]
  | cons key names =>
    rw [show entrances ((key :: names) :: route) = key :: entrances route from rfl]
    grind

/-- Flattening gives the parameters of the fresh ways and no others. -/
theorem Flattens.mem_iff {entered : List String} {path : String} {required : List String}
    {ps : Entries Schema} {out : List ParameterObject}
    (h : Flattens c d entered path required ps out) {p : ParameterObject} :
    p ∈ out ↔ ∃ route, Way c d path required ps route p ∧ Fresh entered route := by
  induction h with
  | done =>
    simp only [List.not_mem_nil, false_iff, not_exists, not_and]
    rintro route (⟨hmem, -⟩ | ⟨hmem, -, -, -⟩) <;> simp at hmem
  | leaf hmembers _ ih =>
    simp only [List.mem_cons, ih, way_cons_leaf_iff hmembers, or_and_right, exists_or]
    refine or_congr_left ⟨?_, ?_⟩
    · rintro rfl
      exact ⟨[], ⟨rfl, rfl⟩, by simp [Fresh, entrances]⟩
    · rintro ⟨_, ⟨-, hp⟩, -⟩
      exact hp
  | again hmembers hkey hentered _ ih =>
    obtain ⟨names, hchain⟩ := exists_chain hmembers
    -- No way through the skipped property is fresh: it enters a name that is entered already.
    simp only [ih, way_cons_enter_iff hmembers hchain, or_and_right, exists_or]
    refine (or_iff_right ?_).symm
    rintro ⟨_, ⟨rest, rfl, -⟩, hfresh⟩
    exact (fresh_cons_iff.mp hfresh).1 _ (hchain.head?_eq.trans hkey) hentered
  | enter hmembers hfree _ _ ihinner ih =>
    obtain ⟨names, hchain⟩ := exists_chain hmembers
    simp only [List.mem_append, ihinner, ih, way_cons_enter_iff hmembers hchain, or_and_right,
      exists_or]
    refine or_congr_left ⟨?_, ?_⟩
    · rintro ⟨rest, hrest, hfresh⟩
      refine ⟨names :: rest, ⟨rest, rfl, hrest⟩, fresh_cons_iff.mpr ?_⟩
      rw [hchain.head?_eq]
      exact ⟨hfree, hfresh⟩
    · rintro ⟨_, ⟨rest, rfl, hrest⟩, hfresh⟩
      rw [fresh_cons_iff, hchain.head?_eq] at hfresh
      exact ⟨rest, hrest, hfresh.2⟩

/-- Where no chain has a second name, the names on a way are those that it enters. -/
theorem flatten_eq_entrances {route : List (List String)}
    (h : ∀ names ∈ route, names.length ≤ 1) : route.flatten = entrances route := by
  induction route with
  | nil => rfl
  | cons names route ih =>
    rw [List.forall_mem_cons] at h
    rw [List.flatten_cons, ih h.2]
    match names, h.1 with
    | [], _ => rfl
    | [_], _ => rfl

theorem exists_chain_of_object? {object : Schema} (hobject : d.object? c = some object) :
    ∃ s top, d.schema = some s ∧ c.Chain s top object := by
  unfold object? at hobject
  split at hobject
  · rw [Option.filter_eq_some_iff] at hobject
    obtain ⟨hobject, hmembers⟩ := hobject
    obtain ⟨s, hs, rfl⟩ := Option.map_eq_some_iff.mp hobject
    obtain ⟨top, htop⟩ := exists_chain hmembers
    exact ⟨s, top, hs, htop⟩
  · exact absurd hobject (by simp)

/-- A deep object stands for the parameters of the ways through its object that enter no name
twice. -/
theorem exists_deepObject? {object : Schema} (hobject : d.object? c = some object) :
    ∃ out, d.deepObject? c = some out ∧ ∀ p, p ∈ out ↔ ∃ route,
      Way c d d.name object.required object.shape.members route p ∧ (entrances route).Nodup := by
  obtain ⟨out, hout, hflattens⟩ := (rearranged_deepObject c d).2.1 object hobject
  refine ⟨out, hout, fun p => ?_⟩
  simp only [hflattens.mem_iff, Fresh, List.not_mem_nil, not_false_eq_true, implies_true, and_true]

/-- A deep object stands for the parameters of the ways through its object that enter no name
twice, where a property enters by the name that it refers to itself. The chains of references on a
way, that of the parameter included, pass no name twice exactly when no two of them have the same
destination. So a name is passed twice where a property leads back to the object that the parameter
refers to, or where two properties refer to one object by different names; without a reference in
the parameter and without names for names no name is. -/
theorem mem_deepObject_iff (c : Context) (d : ParameterObject) (object : Schema)
    (hobject : d.object? c = some object) :
    ∃ s top out, d.schema = some s ∧ c.Chain s top object ∧ d.deepObject? c = some out ∧
      (∀ p, p ∈ out ↔ ∃ route,
        Way c d d.name object.required object.shape.members route p ∧ (entrances route).Nodup) ∧
      ∀ route p, Way c d d.name object.required object.shape.members route p →
        ((top :: route).flatten.Nodup ↔ (destinations (top :: route)).Nodup) ∧
          (top = [] → (∀ names ∈ route, names.length ≤ 1) → (entrances route).Nodup →
            (top :: route).flatten.Nodup) := by
  obtain ⟨s, top, hs, htop⟩ := exists_chain_of_object? hobject
  obtain ⟨out, hout, hmem⟩ := exists_deepObject? hobject
  refine ⟨s, top, out, hs, htop, hout, hmem, fun route p hway => ⟨?_, ?_⟩⟩
  · exact Context.nodup_flatten_chains
      (List.forall_mem_cons.mpr ⟨⟨s, object, htop⟩, hway.chains⟩)
  · rintro rfl hlength hfresh
    rwa [List.flatten_cons, List.nil_append, flatten_eq_entrances hlength]

/-- A node: a word and the link to the next node. -/
def nodeObject : Schema :=
  .ofShape (.object
    [("next", .reference "#/components/schemas/Link"), ("word", .scalar .string)] [])

/-- A document in which a link is another name for a node. -/
def nodeContext : Context where
  options := {}
  conventions := .neutral false
  document := { components := { schemas :=
    [("Node", nodeObject), ("Link", .reference "#/components/schemas/Node")] } }

/-- An object with a node in it. -/
def listObject : Schema :=
  .ofShape (.object [("node", .reference "#/components/schemas/Node")] [])

/-- A filter by a list of nodes. -/
def listFilter : ParameterObject where
  name := "list"
  location := "query"
  schema := some listObject
  style := some "deepObject"

theorem chain_node :
    nodeContext.Chain (.reference "#/components/schemas/Node") ["Node"] nodeObject :=
  .through (by decide +kernel) rfl (.here (by decide +kernel))

/-- The word of a node ends a way. -/
theorem way_word (path : String) :
    Way nodeContext listFilter path nodeObject.required nodeObject.shape.members []
      (listFilter.leaf path "word" [] (.scalar .string) (.scalar .string)) :=
  .leaf (List.mem_cons_of_mem _ List.mem_cons_self) (by decide +kernel)

theorem mem_deepObject_iff_nodes : listFilter.object? nodeContext = some listObject ∧
    ∃ out, listFilter.deepObject? nodeContext = some out ∧
      listFilter.leaf "list[node]" "word" [] (.scalar .string) (.scalar .string) ∈ out ∧
      Way nodeContext listFilter "list" listObject.required listObject.shape.members [["Node"]]
        (listFilter.leaf "list[node]" "word" [] (.scalar .string) (.scalar .string)) ∧
      ([] :: [["Node"]]).flatten.Nodup := by
  have hobject : listFilter.object? nodeContext = some listObject := rfl
  have hway : Way nodeContext listFilter "list" listObject.required listObject.shape.members
      [["Node"]] (listFilter.leaf "list[node]" "word" [] (.scalar .string) (.scalar .string)) :=
    .enter List.mem_cons_self (by decide +kernel) chain_node (way_word _)
  obtain ⟨s, top, out, hs, htop, hout, hmem, hnames⟩ := mem_deepObject_iff _ _ _ hobject
  obtain rfl := Option.some.inj hs
  obtain ⟨rfl, -⟩ := htop.unique (.here (by decide +kernel))
  exact ⟨hobject, out, hout, (hmem _).mpr ⟨_, hway, by decide⟩, hway,
    (hnames _ _ hway).1.mpr (by decide)⟩

/-- The name of the parameter's own reference is entered once more below it, and a name that was
only passed on the way to another one is entered under that one. -/
theorem not_nodup_again :
    (∃ out p, tagFilter.deepObject? (tagContext tagMembers) = some out ∧ p ∈ out ∧
      p.name = "tag[parent][word]" ∧
      (tagContext tagMembers).Chain (.reference "#/components/schemas/Tag") ["Tag"]
        (.ofShape (.object tagMembers ["WORD"])) ∧
      Way (tagContext tagMembers) tagFilter "tag" ["WORD"] tagMembers [["Tag"]] p ∧
      ¬ (["Tag"] :: [["Tag"]]).flatten.Nodup) ∧
    ∃ out p, listFilter.deepObject? nodeContext = some out ∧ p ∈ out ∧
      p.name = "list[node][next][word]" ∧
      Way nodeContext listFilter "list" listObject.required listObject.shape.members
        [["Node"], ["Link", "Node"]] p ∧
      ¬ ([] :: [["Node"], ["Link", "Node"]]).flatten.Nodup := by
  constructor
  · have hchain : (tagContext tagMembers).Chain (.reference "#/components/schemas/Tag") ["Tag"]
        (.ofShape (.object tagMembers ["WORD"])) :=
      .through (by decide +kernel) rfl (.here (by decide +kernel))
    have hway : Way (tagContext tagMembers) tagFilter "tag" ["WORD"] tagMembers [["Tag"]]
        (tagFilter.leaf "tag[parent]" "word" ["WORD"] (.scalar .string) (.scalar .string)) :=
      .enter List.mem_cons_self (by decide +kernel) hchain
        (.leaf (List.mem_cons_of_mem _ List.mem_cons_self) (by decide +kernel))
    obtain ⟨out, hout, hmem⟩ := exists_deepObject? (d := tagFilter) (c := tagContext tagMembers) rfl
    exact ⟨out, _, hout, (hmem _).mpr ⟨_, hway, by decide⟩, by decide +kernel, hchain, hway,
      by decide⟩
  · have hway : Way nodeContext listFilter "list" listObject.required listObject.shape.members
        [["Node"], ["Link", "Node"]]
        (listFilter.leaf "list[node][next]" "word" [] (.scalar .string) (.scalar .string)) :=
      .enter List.mem_cons_self (by decide +kernel) chain_node
        (.enter List.mem_cons_self (by decide +kernel)
          (.through (by decide +kernel) rfl chain_node) (way_word _))
    obtain ⟨out, hout, hmem⟩ := exists_deepObject? (d := listFilter) (c := nodeContext) rfl
    exact ⟨out, _, hout, (hmem _).mpr ⟨_, hway, by decide⟩, by decide +kernel, hway, by decide⟩

end ParameterObject
end ApiResolution
