import ApiResolution.Proofs.Document.Places
import ApiResolution.Proofs.Model.Construction

/-!
The members that are collected for a combination. Whatever holds of no members and stays true when
the declarations of a good schema are added holds of all collected members, if branches and named
schemas are good (`Carries`). Hence the names of members are distinct, and their schemas stand in
the document.
-/

namespace ApiResolution
namespace Members

theorem mem_insertAll {more es : Entries Schema} {e : String × Schema}
    (h : e ∈ insertAll more es) : e ∈ more ∨ e ∈ es :=
  Entries.mem_foldl_insert h

/-- An entry under a name that was inserted is one of those inserted. -/
theorem mem_of_mem_insertAll {more es : Entries Schema} (hn : (Entries.keys es).Nodup)
    {e : String × Schema} (h : e ∈ insertAll more es) (hk : e.1 ∈ Entries.keys more) :
    e ∈ more := by
  have hstep : e ∈ more ∨ e ∈ es ∧ e.1 ∉ Entries.keys more := by
    clear hk
    unfold insertAll at h
    induction more generalizing es with
    | nil => exact .inr ⟨h, by simp [Entries.keys]⟩
    | cons first more ih =>
      rcases ih (Entries.nodup_keys_insert first.1 first.2 hn) h with h | ⟨h, hrest⟩
      · exact .inl (List.mem_cons_of_mem _ h)
      · by_cases hfirst : e.1 = first.1
        · exact .inl (Entries.eq_of_mem_insert hn h hfirst ▸ List.mem_cons_self)
        · refine .inr ⟨(Entries.mem_insert h).resolve_left fun heq => hfirst (by rw [heq]), ?_⟩
          rw [Entries.keys_cons, List.mem_cons, not_or]
          exact ⟨hfirst, hrest⟩
  exact hstep.resolve_right fun h => h.2 hk

/-! ## What collecting carries along -/

/-- A property of collected members that is kept when the declarations of a good schema are added.
Named schemas and the branches of good combinations are good. -/
structure Carries (c : Context) (good : Schema → Prop) (holds : Members → Prop) : Prop where
  empty : holds {}
  addOwn : ∀ ms s, good s → holds ms → holds (ms.addOwn s)
  named : ∀ name s, c.schema? name = some s → good s
  branch : ∀ a allOf oneOf anyOf ps rs, good ⟨a, .composed allOf oneOf anyOf ps rs⟩ →
    ∀ b ∈ allOf, good b

variable {c : Context} {good : Schema → Prop} {holds : Members → Prop}

mutual

theorem Carries.collect (h : Carries c good holds) {follow : String → Walk → Walk}
    (hfollow : ∀ name w, holds w.members → holds (follow name w).members) :
    (s : Schema) → good s → (w : Walk) → holds w.members →
      holds (collect c follow s w).members
  | ⟨a, shape⟩, hs, w, hw => by
    cases shape with
    | composed allOf oneOf anyOf ps rs =>
      rw [Members.collect]
      exact h.addOwn _ _ hs
        (Carries.collectAll h hfollow allOf (h.branch a allOf oneOf anyOf ps rs hs) w hw)
    | _ =>
      rw [Members.collect]
      · split
        · exact hfollow _ w hw
        · exact h.addOwn _ _ hs hw
      · simp

theorem Carries.collectAll (h : Carries c good holds) {follow : String → Walk → Walk}
    (hfollow : ∀ name w, holds w.members → holds (follow name w).members) :
    (ss : List Schema) → (∀ s ∈ ss, good s) → (w : Walk) → holds w.members →
      holds (collectAll c follow ss w).members
  | [], _, w, hw => by
    rw [Members.collectAll]
    exact hw
  | s :: ss, hs, w, hw => by
    rw [Members.collectAll]
    exact Carries.collectAll h hfollow ss (fun t ht => hs t (List.mem_cons_of_mem _ ht)) _
      (Carries.collect h hfollow s (hs s List.mem_cons_self) w hw)

end

theorem Carries.reach (h : Carries c good holds) (rest : Nat) (name : String) (w : Walk)
    (hw : holds w.members) : holds (reach c rest name w).members := by
  induction rest generalizing name w with
  | zero => exact hw
  | succ rest ih =>
    rw [Members.reach]
    split
    · exact hw
    · dsimp only
      split
      · next s hs => exact h.collect ih s (h.named name s hs) _ hw
      · exact hw

theorem Carries.addReached (h : Carries c good holds) (self : String) {branch : Schema}
    (hb : good branch) {ms : Members} (hms : holds ms) :
    holds (addReached c self branch ms) :=
  h.collect (h.reach _) branch hb _ hms

end Members

namespace Model

open Members

variable {c : Context} {good : Schema → Prop} {holds : Members → Prop}

theorem carries_ownFrom (h : Carries c good holds) (self : String) (first : Bool)
    {branches : List Schema} (hb : ∀ b ∈ branches, good b) {ms : Members} (hms : holds ms) :
    holds (ownFrom c self first branches ms) := by
  induction branches generalizing first ms with
  | nil => exact hms
  | cons b branches ih =>
    rw [ownFrom]
    refine ih false (fun b hmem => hb b (List.mem_cons_of_mem _ hmem)) ?_
    generalize (if first = true then Composition.inheritance else .mixins) = left
    cases c.refName? b with
    | none => exact h.addOwn _ _ (hb b List.mem_cons_self) hms
    | some _ =>
      dsimp only
      split
      · exact hms
      · exact h.addReached self (hb b List.mem_cons_self) hms

theorem carries_inheritedMembers (h : Carries c good holds) (self : String)
    {allOf : List Schema} (hb : ∀ b ∈ allOf, good b) :
    holds (inheritedMembers c self allOf) := by
  unfold inheritedMembers
  have hgood : ∀ b ∈ allOf.filter fun b => (c.refName? b).isSome, good b :=
    fun b hmem => hb b (List.mem_filter.mp hmem).1
  generalize allOf.filter (fun b => (c.refName? b).isSome) = refs at hgood
  have hempty := h.empty
  generalize ({} : Members) = ms at hempty
  induction refs generalizing ms with
  | nil => exact hempty
  | cons b refs ih =>
    exact ih (fun b hmem => hgood b (List.mem_cons_of_mem _ hmem)) _
      (h.addReached self (hgood b List.mem_cons_self) hempty)

theorem carries_ownMembers (h : Carries c good holds) (self : String) {s : Schema} (hs : good s)
    {allOf : List Schema} (hb : ∀ b ∈ allOf, good b) : holds (ownMembers c self allOf s) :=
  h.addOwn _ _ hs (carries_ownFrom h self true hb h.empty)

/-! ## Names and schemas of members -/

theorem carries_nodup (c : Context) :
    Carries c (fun _ => True) fun ms => (Entries.keys ms.properties).Nodup where
  empty := List.nodup_nil
  addOwn _ s _ hms := Entries.nodup_keys_foldl_insert (s.properties?.getD []) hms
  named _ _ _ := trivial
  branch _ _ _ _ _ _ _ _ _ := trivial

theorem carries_occurs (c : Context) :
    Carries c c.document.Occurs fun ms => ∀ e ∈ ms.properties, c.document.Occurs e.2 where
  empty := by simp
  addOwn ms s hs hms := by
    intro e he
    rcases mem_insertAll he with he | he
    · cases hps : s.properties? with
      | none => simp [hps] at he
      | some ps => exact hs.property hps (by simpa [hps] using he)
    · exact hms e he
  named name s h := Document.occurs_of_mem_schemas (Entries.mem_of_lookup? h)
  branch a allOf oneOf anyOf ps rs hs b hb := by
    obtain ⟨i, hi⟩ := List.mem_iff_getElem?.mp hb
    exact hs.child (.allOf i) hi

/-- The schemas of the members that a schema lists stand in the document with it. -/
theorem occurs_of_mem_listedMembers {c : Context} {name : String} {s : Schema}
    (hs : c.document.Occurs s) {e : String × Schema}
    (he : e ∈ (listedMembers c name s).properties) : c.document.Occurs e.2 := by
  rcases s with ⟨a, shape⟩
  unfold listedMembers at he
  cases shape with
  | composed allOf oneOf anyOf ps rs =>
    exact carries_ownMembers (carries_occurs c) name hs
      ((carries_occurs c).branch a allOf oneOf anyOf ps rs hs) e he
  | map value ps rs => exact hs.property rfl he
  | object ps rs => exact hs.property rfl he
  | _ => exact absurd he (by simp [Schema.properties?, Shape.properties?])

theorem occurs_of_mem_allMembers {c : Context} {name : String} {s : Schema}
    (hs : c.document.Occurs s) {e : String × Schema}
    (he : e ∈ (allMembers c name s).properties) : c.document.Occurs e.2 := by
  rcases s with ⟨a, shape⟩
  unfold allMembers at he
  cases shape with
  | composed allOf oneOf anyOf ps rs =>
    dsimp only at he
    have hb := (carries_occurs c).branch a allOf oneOf anyOf ps rs hs
    split at he
    · rcases mem_insertAll he with he | he
      · exact carries_ownMembers (carries_occurs c) name hs hb e he
      · exact carries_inheritedMembers (carries_occurs c) name hb e he
    · simp at he
  | _ => simp at he

/-- A member among all members whose name the schema lists is one that it lists. -/
theorem mem_listedMembers_of_mem_allMembers {c : Context} {name : String} {s : Schema}
    {e : String × Schema} (he : e ∈ (allMembers c name s).properties)
    (hk : e.1 ∈ Entries.keys (listedMembers c name s).properties) :
    e ∈ (listedMembers c name s).properties := by
  rcases s with ⟨a, shape⟩
  unfold allMembers at he
  unfold listedMembers at hk ⊢
  cases shape with
  | composed allOf oneOf anyOf ps rs =>
    dsimp only at he hk ⊢
    split at he
    · exact mem_of_mem_insertAll
        (carries_inheritedMembers (carries_nodup c) name fun _ _ => trivial) he hk
    · simp at he
  | _ => simp at he

end Model
end ApiResolution
