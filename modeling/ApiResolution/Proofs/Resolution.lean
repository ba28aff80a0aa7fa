import ApiResolution.Proofs.Source
import ApiResolution.Resolution

/-!
What a resolution that succeeds is made of. Its models and operations are those of one context, the
document with the names that resolution gives it (`of_ofDocument`), and its diagnostics hold all
that was noted on the way to them. `distinctSchemas_read?` says that a document that was read has no
name of a schema twice, and `distinctSchemas_context` that a resolved one has none either.
-/

namespace ApiResolution

theorem eq_ok_of_toOption {ε α : Type} {x : Except ε α} {a : α} (h : x.toOption = some a) :
    x = .ok a := by
  cases x with
  | error failure => exact absurd h (by simp [Except.toOption])
  | ok made => rw [Option.some.inj h]

namespace Document

/-- No two schemas have the same name. -/
def DistinctSchemas (d : Document) : Prop := (Entries.keys d.components.schemas).Nodup

instance (d : Document) : Decidable d.DistinctSchemas :=
  inferInstanceAs (Decidable (Entries.keys d.components.schemas).Nodup)

theorem nodup_keys_readComponents {source : Source} {c : Components}
    (h : Components.read? source = some c) : (Entries.keys c.schemas).Nodup := by
  unfold Components.read? at h
  obtain ⟨ms, -, h⟩ := Option.bind_eq_some_iff.mp h
  obtain ⟨schemas, hs, h⟩ := Option.bind_eq_some_iff.mp h
  have hn : (Entries.keys schemas).Nodup := by
    rcases Source.field?_eq_some hs with rfl | ⟨source, hs⟩
    · exact List.nodup_nil
    · exact Source.nodup_keys_entries? hs
  obtain ⟨_, -, h⟩ := Option.bind_eq_some_iff.mp h
  obtain ⟨_, -, h⟩ := Option.bind_eq_some_iff.mp h
  obtain ⟨_, -, h⟩ := Option.bind_eq_some_iff.mp h
  obtain ⟨_, -, h⟩ := Option.bind_eq_some_iff.mp h
  obtain ⟨_, -, h⟩ := Option.bind_eq_some_iff.mp h
  obtain rfl := Option.some.inj h
  exact hn

/-- A document that was read has no name of a schema twice. -/
theorem distinctSchemas_read? {source : Source} {d : Document} (h : read? source = some d) :
    d.DistinctSchemas := by
  unfold read? at h
  obtain ⟨_, -, h⟩ := Option.bind_eq_some_iff.mp h
  obtain ⟨_, -, h⟩ := Option.bind_eq_some_iff.mp h
  obtain ⟨_, -, h⟩ := Option.bind_eq_some_iff.mp h
  obtain ⟨_, -, h⟩ := Option.bind_eq_some_iff.mp h
  obtain ⟨components, hc, h⟩ := Option.bind_eq_some_iff.mp h
  obtain ⟨_, -, h⟩ := Option.bind_eq_some_iff.mp h
  obtain rfl := Option.some.inj h
  rcases Source.field?_eq_some hc with rfl | ⟨source, hc⟩
  · exact List.nodup_nil
  · exact nodup_keys_readComponents hc

theorem distinctSchemas_withDistinctNames (d : Document) : d.withDistinctNames.DistinctSchemas :=
  Entries.nodup_keys_ofList _

end Document

namespace Resolution

/-- The context of a resolution: its document is the one with the names that resolution gives. -/
def context (o : Options) (v : Conventions) (d : Document) : Context :=
  ⟨o, v, (distinctNames o d).value⟩

theorem value_distinctNames (o : Options) (d : Document) :
    (distinctNames o d).value = if o.checkDuplicatedModelName then d.withDistinctNames else d := by
  unfold distinctNames
  split <;> rfl

theorem distinctSchemas_context (o : Options) (v : Conventions) {d : Document}
    (hd : d.DistinctSchemas) : (context o v d).document.DistinctSchemas := by
  rw [context, value_distinctNames]
  split
  · exact d.distinctSchemas_withDistinctNames
  · exact hd

/-- What the parts of a resolution are, and where what was noted on the way to them is found. -/
structure MadeOf (c : Context) (r : Resolution) : Prop where
  models : r.models = (ModelMap.ofDocument c).value
  operations : (Buckets.ofDocument c r.models).value = .ok r.operations
  diagnostics : ∃ notes, r.diagnostics = (Log.addAll {} notes).entries ∧
    (ModelMap.ofDocument c).notes ⊆ notes ∧ (Buckets.ofDocument c r.models).notes ⊆ notes

theorem of_parts {o : Options} {v : Conventions} {d : Document} {r : Resolution}
    (h : (parts o v d).value = .ok r) :
    r.models = (ModelMap.ofDocument (context o v d)).value ∧
      (Buckets.ofDocument (context o v d) r.models).value = .ok r.operations ∧
      (ModelMap.ofDocument (context o v d)).notes ⊆ (parts o v d).notes ∧
      (Buckets.ofDocument (context o v d) r.models).notes ⊆ (parts o v d).notes := by
  unfold parts at h ⊢
  simp only [Noted.value_bind] at h
  cases hb : (Buckets.ofDocument (context o v d)
      (ModelMap.ofDocument (context o v d)).value).value with
  | error failure =>
    have hb' := hb
    unfold context at hb'
    rw [hb'] at h
    exact absurd h (by simp)
  | ok operations =>
    have hb' := hb
    unfold context at hb'
    rw [hb'] at h
    simp only [Noted.value_bind] at h
    have hm : r.models = (ModelMap.ofDocument (context o v d)).value ∧
        r.operations = operations := by
      split at h
      · exact absurd h (by simp)
      · obtain rfl := Except.ok.inj h
        exact ⟨rfl, rfl⟩
    refine ⟨hm.1, by rw [hm.1, hb, hm.2], ?_, ?_⟩
    · intro n hn
      simp only [Noted.notes_bind, List.mem_append]
      exact .inr (.inl hn)
    · intro n hn
      rw [hm.1] at hn
      simp only [Noted.notes_bind, List.mem_append]
      exact .inr (.inr (.inl hn))

/-- A resolution that succeeds has parts, and its diagnostics are all that was noted on the way to
them. -/
theorem exists_parts_of_ofDocument {o : Options} {v : Conventions} {d : Document} {r : Resolution}
    (h : ofDocument o v d = .ok r) :
    ∃ made, (parts o v d).value = .ok made ∧
      r = { made with diagnostics := (Log.addAll {} (parts o v d).notes).entries } := by
  unfold ofDocument at h
  split at h
  · exact absurd h (by simp)
  · dsimp only at h
    cases hp : (parts o v d).value with
    | error failure =>
      rw [hp] at h
      exact absurd h (by simp [Except.map])
    | ok made =>
      rw [hp] at h
      exact ⟨made, rfl, (Except.ok.inj h).symm⟩

/-- A resolution that succeeds is made of the models and operations of its context. -/
theorem of_ofDocument {o : Options} {v : Conventions} {d : Document} {r : Resolution}
    (h : ofDocument o v d = .ok r) : MadeOf (context o v d) r := by
  obtain ⟨made, hp, rfl⟩ := exists_parts_of_ofDocument h
  obtain ⟨hm, ho, hmn, hon⟩ := of_parts hp
  exact ⟨hm, ho, _, rfl, hmn, hon⟩

theorem ofDocument_eq_ok {o : Options} {v : Conventions} {d : Document} {r : Resolution}
    (h : (ofDocument o v d).toOption = some r) : ofDocument o v d = .ok r :=
  eq_ok_of_toOption h

/-- The model of a name in the resolution of a document, if that succeeds. -/
def model? (o : Options) (v : Conventions) (d : Document) (name : String) : Option Model :=
  match ofDocument o v d with
  | .ok r => Entries.lookup? name r.models
  | .error _ => none

theorem exists_of_model? {o : Options} {v : Conventions} {d : Document} {name : String} {m : Model}
    (h : model? o v d name = some m) :
    ∃ r, ofDocument o v d = .ok r ∧ Entries.lookup? name r.models = some m := by
  unfold model? at h
  split at h
  · next r hr => exact ⟨r, hr, h⟩
  · exact absurd h (by simp)

end Resolution
end ApiResolution
