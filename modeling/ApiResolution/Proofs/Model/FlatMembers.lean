import ApiResolution.Proofs.Model.Combination
import ApiResolution.Proofs.Model.Finished

/-!
The members of combinations in the flat mode, where all of them are a model's own. Its names are
those that the combination, its inline branches and the schemas reached from its references declare,
each once (`baseName_mem_vars_iff`). What an inline branch combines in its turn is followed only when
it is met behind a reference, so these are not always all names that are reached.
-/

namespace ApiResolution
namespace Members

variable {c : Context} {self : String} {s : Schema}

/-- Whatever is reached, and may be reached through a named schema, is reached without its name or
from that schema without its name. -/
theorem Reaches.without (hs : c.schema? self = some s) {x t : Schema}
    (h : Reaches c [] x t) : Reaches c [self] x t ∨ Reaches c [self] s t := by
  induction h with
  | here x => exact .inl (.here x)
  | branch hb _ ih => exact ih.imp_left (.branch hb)
  | @named x target t name hn _ htarget _ ih =>
    by_cases hname : name = self
    · rw [hname, hs] at htarget
      obtain rfl := Option.some.inj htarget
      exact .inr (ih.elim id id)
    · exact ih.imp_left (.named hn (by simpa using hname) htarget)

/-- The schemas whose declarations a combination merges in the flat mode: its own, those of its
inline branches, and those reached from its references without its own name. -/
inductive Merged (c : Context) (self : String) (s : Schema) : Schema → Prop
  | itself : Merged c self s s
  | inline {b : Schema} (hb : b ∈ s.allOf) (hn : c.refName? b = none) : Merged c self s b
  | reached {b t : Schema} {name : String} (hb : b ∈ s.allOf) (hn : c.refName? b = some name)
      (ht : Reaches c [self] b t) : Merged c self s t

/-- A schema is reached from what an inline branch of another one combines. -/
def Nested (c : Context) (s t : Schema) : Prop :=
  ∃ b ∈ s.allOf, c.refName? b = none ∧ ∃ n ∈ b.allOf, Reaches c [] n t

theorem Reaches.unblocked {blocked : List String} {x t : Schema}
    (h : Reaches c blocked x t) : Reaches c [] x t :=
  h.mono (List.nil_subset _)

/-- What is reached from a combination is merged or stands behind an inline branch. -/
theorem reaches_iff (hs : c.schema? self = some s) (hcomposed : s.isComposed = true) {t : Schema} :
    Reaches c [] s t ↔ Merged c self s t ∨ Nested c s t := by
  have hnone : c.refName? s = none := by
    rcases s with ⟨a, shape⟩
    cases shape with
    | reference target => exact absurd hcomposed (by simp [Schema.isComposed])
    | _ => rfl
  constructor
  · intro h
    cases (h.without hs).elim id id with
    | here => exact .inl .itself
    | @branch _ b _ hb ht =>
      cases hn : c.refName? b with
      | some name => exact .inl (.reached hb hn ht)
      | none =>
        cases ht with
        | here => exact .inl (.inline hb hn)
        | branch hn' ht => exact .inr ⟨b, hb, hn, _, hn', ht.unblocked⟩
        | named hname => exact absurd (hn.symm.trans hname) (by simp)
    | named hname => exact absurd (hnone.symm.trans hname) (by simp)
  · rintro (h | ⟨b, hb, -, n, hn, ht⟩)
    · cases h with
      | itself => exact .here s
      | inline hb _ => exact .branch hb (.here _)
      | reached hb _ ht => exact .branch hb ht.unblocked
    · exact .branch hb (.branch hn ht)

end Members

namespace Model

open Members

theorem mem_takenFrom_flat {c : Context} {self : String} {left : Composition} (hleft : left ≠ .flat)
    {b t : Schema} :
    t ∈ takenFrom c self .flat left b ↔
      c.refName? b = none ∧ t = b ∨ (c.refName? b).isSome ∧ t ∈ passedFrom c self b := by
  unfold takenFrom
  cases c.refName? b with
  | none => simp
  | some name => simp [Ne.symm hleft]

theorem mem_taken_flat {c : Context} {self : String} {allOf : List Schema} {t : Schema} :
    t ∈ taken c self .flat allOf ↔ ∃ b ∈ allOf,
      c.refName? b = none ∧ t = b ∨ (c.refName? b).isSome ∧ t ∈ passedFrom c self b := by
  cases allOf with
  | nil => simp [taken]
  | cons b bs => simp [taken, mem_takenFrom_flat]

/-- In the flat mode a combination lists exactly the names that the merged schemas declare. -/
theorem mem_keys_listedMembers_of_flat {c : Context} {self : String}
    (hflat : c.options.composition = .flat) {s : Schema} (hcomposed : s.isComposed = true)
    {key : String} :
    key ∈ Entries.keys (listedMembers c self s).properties ↔
      ∃ t, Merged c self s t ∧ key ∈ Entries.keys t.declared := by
  rcases s with ⟨a, shape⟩
  cases shape with
  | composed allOf oneOf anyOf ps rs =>
    generalize hs : (⟨a, .composed allOf oneOf anyOf ps rs⟩ : Schema) = s
    have hallOf : s.allOf = allOf := by rw [← hs]; rfl
    have hlisted : listedMembers c self s = (taken c self .flat allOf ++ [s]).foldl addOwn {} := by
      rw [← hflat, ← ownMembers_eq, ← hs]
      rfl
    rw [hlisted, mem_keys_foldl_addOwn]
    constructor
    · rintro ⟨t, ht, hkey⟩
      refine ⟨t, ?_, hkey⟩
      rcases List.mem_append.mp ht with ht | ht
      · obtain ⟨b, hb, ⟨hn, rfl⟩ | ⟨hn, ht⟩⟩ := mem_taken_flat.mp ht
        · exact .inline (hallOf ▸ hb) hn
        · obtain ⟨name, hname⟩ := Option.isSome_iff_exists.mp hn
          exact .reached (hallOf ▸ hb) hname (mem_passedFrom.mp ht).2
      · rw [List.mem_singleton.mp ht]
        exact .itself
    · rintro ⟨t, ht, hkey⟩
      refine ⟨t, List.mem_append.mpr ?_, hkey⟩
      cases ht with
      | itself => exact .inr List.mem_cons_self
      | inline hb hn => exact .inl (mem_taken_flat.mpr ⟨t, hallOf ▸ hb, .inl ⟨hn, rfl⟩⟩)
      | reached hb hn ht =>
        -- A reference declares nothing, so what declares a name is passed when it is reached.
        have hnone : c.refName? t = none := by
          rcases t with ⟨b, shape⟩
          cases shape with
          | reference target => simp [Schema.declared, Schema.properties?, Shape.properties?,
              Entries.keys] at hkey
          | _ => rfl
        refine .inl (mem_taken_flat.mpr ⟨_, hallOf ▸ hb, .inr ⟨by rw [hn]; rfl, ?_⟩⟩)
        exact mem_passedFrom.mpr ⟨hnone, ht⟩
  | _ => exact absurd hcomposed (by simp [Schema.isComposed])

theorem nodup_keys_listedMembers {c : Context} {name : String} {s : Schema}
    (hcomposed : s.isComposed = true) :
    (Entries.keys (listedMembers c name s).properties).Nodup := by
  rcases s with ⟨a, shape⟩
  cases shape with
  | composed allOf oneOf anyOf ps rs =>
    exact carries_ownMembers (carries_nodup c) name trivial fun _ _ => trivial
  | _ => exact absurd hcomposed (by simp [Schema.isComposed])

end Model

namespace Resolution

open Members

theorem composition_eq_flat {o : Options} (hinheritance : o.supportsInheritance = false)
    (hmixins : o.supportsMixins = false) : o.composition = .flat := by
  simp [Options.composition, hinheritance, hmixins]

/-- In the flat mode the members of a combination have, each once, the names that the merged schemas
declare. These are the names of all reached schemas exactly as far as what stands behind an inline
branch only declares names that are merged too. -/
theorem baseName_mem_vars_iff {o : Options} {v : Conventions} {d : Document} {r : Resolution}
    (hd : d.DistinctSchemas) (hinheritance : o.supportsInheritance = false)
    (hmixins : o.supportsMixins = false)
    (hv : ∀ m p, (v.finishProperty m p).baseName = p.baseName) (h : ofDocument o v d = .ok r)
    {owner : String} {s : Schema} (hs : (context o v d).schema? owner = some s)
    (hcomposed : s.isComposed = true) :
    ∃ m, Entries.lookup? owner r.models = some m ∧ (m.vars.map (·.baseName)).Nodup ∧
      (∀ key, key ∈ m.vars.map (·.baseName) ↔
        ∃ t, Merged (context o v d) owner s t ∧ key ∈ Entries.keys t.declared) ∧
      ∀ key, (key ∈ m.vars.map (·.baseName) ↔
          ∃ t, Reaches (context o v d) [] s t ∧ key ∈ Entries.keys t.declared) ↔
        ((∃ t, Nested (context o v d) s t ∧ key ∈ Entries.keys t.declared) →
          ∃ t, Merged (context o v d) owner s t ∧ key ∈ Entries.keys t.declared) := by
  rw [(of_ofDocument h).models]
  have hd' := distinctSchemas_context o v hd
  obtain ⟨m, hm, hnames⟩ := ModelMap.exists_names_ofDocument hd' hinheritance hv hs
  have hmerged : ∀ key, key ∈ m.vars.map (·.baseName) ↔
      ∃ t, Merged (context o v d) owner s t ∧ key ∈ Entries.keys t.declared := by
    intro key
    rw [hnames]
    exact Model.mem_keys_listedMembers_of_flat (composition_eq_flat hinheritance hmixins) hcomposed
  refine ⟨m, hm, hnames ▸ Model.nodup_keys_listedMembers hcomposed, hmerged, fun key => ?_⟩
  have hreached : (∃ t, Reaches (context o v d) [] s t ∧ key ∈ Entries.keys t.declared) ↔
      (∃ t, Merged (context o v d) owner s t ∧ key ∈ Entries.keys t.declared) ∨
        ∃ t, Nested (context o v d) s t ∧ key ∈ Entries.keys t.declared := by
    simp only [reaches_iff hs hcomposed, or_and_right, exists_or]
  rw [hmerged, hreached]
  constructor
  · intro hiff hnested
    exact hiff.mpr (.inr hnested)
  · intro hall
    exact ⟨.inl, fun h => h.elim id hall⟩

/-- Two combinations that refer to each other, each with a property in an inline branch. -/
def knot : Document :=
  { components := { schemas := [
      ("Left", .ofShape (.composed [.reference "#/components/schemas/Right",
        .ofShape (.object [("left", .scalar .string)] [])] [] [] [] [])),
      ("Right", .ofShape (.composed [.reference "#/components/schemas/Left",
        .ofShape (.object [("right", .scalar .string)] [])] [] [] [] []))] } }

theorem baseName_mem_vars_knot :
    ∃ r m s, ofDocument {} (.neutral false) knot = .ok r ∧
      Entries.lookup? "Left" r.models = some m ∧ m.vars.map (·.baseName) = ["right", "left"] ∧
      (m.vars.map (·.baseName)).Nodup ∧
      ∃ t, Merged (context {} (.neutral false) knot) "Left" s t ∧
        "right" ∈ Entries.keys t.declared := by
  have hnames : (model? {} (.neutral false) knot "Left").map (fun m => m.vars.map (·.baseName)) =
      some ["right", "left"] := by decide +kernel
  obtain ⟨m, hm, hnames⟩ := Option.map_eq_some_iff.mp hnames
  obtain ⟨r, hr, hl⟩ := exists_of_model? hm
  obtain ⟨s, hs, hcomposed⟩ : ∃ s, (context {} (.neutral false) knot).schema? "Left" = some s ∧
      s.isComposed = true := ⟨_, rfl, rfl⟩
  obtain ⟨m', hl', hnodup, hmerged, -⟩ := baseName_mem_vars_iff (o := {}) (v := .neutral false)
    (by decide) rfl rfl (fun _ _ => rfl) hr hs hcomposed
  obtain rfl : m = m' := Option.some.inj (hl.symm.trans hl')
  exact ⟨r, m, s, hr, hl, hnames, hnodup, (hmerged "right").mp (by simp [hnames])⟩

/-- A combination of a single branch. -/
def combine (branch : Schema) : Schema := .ofShape (.composed [branch] [] [] [] [])

/-- An object with a single property. -/
def lone : Schema := .ofShape (.object [("a", .scalar .string)] [])

/-- A combination whose inline branch combines an object in its turn, and a combination that refers
to the first one. -/
def nested : Document :=
  { components := { schemas := [
      ("Outer", combine (combine lone)),
      ("Heir", combine (.reference "#/components/schemas/Outer"))] } }

/-- The combination misses a property that is reached from it, and the one that refers to it has
it. -/
theorem not_mem_vars_nested :
    ∃ r outer heir, ofDocument {} (.neutral false) nested = .ok r ∧
      Entries.lookup? "Outer" r.models = some outer ∧ outer.vars.map (·.baseName) = [] ∧
      Entries.lookup? "Heir" r.models = some heir ∧ heir.vars.map (·.baseName) = ["a"] ∧
      (context {} (.neutral false) nested).schema? "Outer" = some (combine (combine lone)) ∧
      Reaches (context {} (.neutral false) nested) [] (combine (combine lone)) lone ∧
      "a" ∈ Entries.keys lone.declared := by
  have houter : (model? {} (.neutral false) nested "Outer").map
      (fun m => m.vars.map (·.baseName)) = some [] := by decide +kernel
  have hheir : (model? {} (.neutral false) nested "Heir").map
      (fun m => m.vars.map (·.baseName)) = some ["a"] := by decide +kernel
  obtain ⟨outer, houter, hnone⟩ := Option.map_eq_some_iff.mp houter
  obtain ⟨heir, hheir, hsome⟩ := Option.map_eq_some_iff.mp hheir
  obtain ⟨r, hr, hl⟩ := exists_of_model? houter
  have hl' : Entries.lookup? "Heir" r.models = some heir := by simpa [model?, hr] using hheir
  have hbranch : ∀ s : Schema, s ∈ (combine s).allOf := fun s => List.mem_singleton.mpr rfl
  exact ⟨r, outer, heir, hr, hl, hnone, hl', hsome, rfl,
    .branch (hbranch _) (.branch (hbranch _) (.here _)), List.mem_singleton.mpr rfl⟩

end Resolution
end ApiResolution
