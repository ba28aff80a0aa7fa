import ApiResolution.Proofs.Entries
import ApiResolution.Proofs.Pointwise
import ApiResolution.Security.OfDocument
import Mathlib.Data.List.Perm.Subperm

/-!
Security schemes and the references between them. `LeadsTo` says that references lead from a part to
a declaration over some names. A chain of references that ends has no name twice, so it is no longer
than the list of schemes, and the bounded walk finds its end (`follow?_eq_some_iff`). The schemes of
a document fail exactly when one of them leads to a scheme of OAuth 2 without flows
(`ofDocument_eq_error_iff`).
-/

namespace ApiResolution

/-- The scheme is of OAuth 2 and has none of the four flows. -/
structure SecuritySchemeObject.Flowless (d : SecuritySchemeObject) : Prop where
  oauth2 : d.schemeType = "oauth2"
  flows : ∀ flows, d.flows = some flows → flows.password = none ∧ flows.implicit = none ∧
    flows.clientCredentials = none ∧ flows.authorizationCode = none

namespace SecurityScheme

variable {schemes : Entries (OrReference SecuritySchemeObject)}

/-- References lead from a part over the names to a declaration. -/
inductive LeadsTo (schemes : Entries (OrReference SecuritySchemeObject)) :
    List String → OrReference SecuritySchemeObject → SecuritySchemeObject → Prop
  | inline (d : SecuritySchemeObject) : LeadsTo schemes [] (.inline d) d
  | reference {target : String} {next : OrReference SecuritySchemeObject} {names : List String}
      {d : SecuritySchemeObject} (link : Entries.lookup? (lastSegment target) schemes = some next)
      (rest : LeadsTo schemes names next d) :
      LeadsTo schemes (lastSegment target :: names) (.reference target) d

namespace LeadsTo

variable {names others : List String} {part : OrReference SecuritySchemeObject}
  {d d' : SecuritySchemeObject}

/-- A part leads to one declaration, and in one way. -/
theorem unique (h : LeadsTo schemes names part d) (h' : LeadsTo schemes others part d') :
    names = others ∧ d = d' := by
  induction h generalizing others with
  | inline d =>
    cases h'
    exact ⟨rfl, rfl⟩
  | reference link rest ih =>
    cases h' with
    | reference link' rest' =>
      obtain rfl := Option.some.inj (link.symm.trans link')
      obtain ⟨rfl, rfl⟩ := ih rest'
      exact ⟨rfl, rfl⟩

/-- From a name on the way, the rest of the way leads on. -/
theorem of_mem (h : LeadsTo schemes names part d) {name : String} (hn : name ∈ names) :
    ∃ next rest, Entries.lookup? name schemes = some next ∧ LeadsTo schemes rest next d ∧
      rest.length < names.length := by
  induction h with
  | inline d => simp at hn
  | reference link rest ih =>
    rcases List.mem_cons.mp hn with rfl | hn
    · exact ⟨_, _, link, rest, Nat.lt_succ_self _⟩
    · obtain ⟨next, rest', hnext, hleads, hlt⟩ := ih hn
      exact ⟨next, rest', hnext, hleads, Nat.lt_succ_of_lt hlt⟩

/-- A way that ends meets no name twice: from the second time on it would have to be shorter than
from the first time on. -/
theorem nodup (h : LeadsTo schemes names part d) : names.Nodup := by
  induction h with
  | inline d => exact List.nodup_nil
  | reference link rest ih =>
    refine List.nodup_cons.mpr ⟨fun hmem => ?_, ih⟩
    obtain ⟨next, rest', hnext, hleads, hlt⟩ := rest.of_mem hmem
    obtain rfl := Option.some.inj (link.symm.trans hnext)
    obtain ⟨rfl, -⟩ := rest.unique hleads
    exact absurd hlt (Nat.lt_irrefl _)

theorem length_le (h : LeadsTo schemes names part d) : names.length ≤ schemes.length := by
  have hkeys : names ⊆ Entries.keys schemes := by
    intro name hname
    obtain ⟨next, -, hnext, -⟩ := h.of_mem hname
    exact Entries.mem_keys_of_lookup? hnext
  have hlen := (h.nodup.subperm hkeys).length_le
  rwa [Entries.keys, List.length_map] at hlen

end LeadsTo

/-! ## The bounded walk -/

theorem followFrom?_eq_some_iff {hops : Nat} {part : OrReference SecuritySchemeObject}
    {d : SecuritySchemeObject} : followFrom? schemes hops part = some d ↔
      ∃ names, LeadsTo schemes names part d ∧ names.length < hops := by
  -- The declaration at the end takes a hop too, so there are fewer names than hops.
  induction hops generalizing part with
  | zero => simp [followFrom?]
  | succ hops ih =>
    cases part with
    | inline declared =>
      rw [followFrom?]
      constructor
      · intro h
        obtain rfl := Option.some.inj h
        exact ⟨[], .inline declared, Nat.succ_pos hops⟩
      · rintro ⟨names, hleads, -⟩
        cases hleads
        rfl
    | reference target =>
      rw [followFrom?]
      constructor
      · intro h
        split at h
        · next next hnext =>
          obtain ⟨names, hleads, hlt⟩ := ih.mp h
          exact ⟨_, .reference hnext hleads, Nat.succ_lt_succ hlt⟩
        · exact absurd h (by simp)
      · rintro ⟨names, hleads, hlt⟩
        cases hleads with
        | reference link rest =>
          rw [link]
          exact ih.mpr ⟨_, rest, Nat.lt_of_succ_lt_succ hlt⟩

/-- The walk finds the declaration to which references lead, over however many names. -/
theorem follow?_eq_some_iff {part : OrReference SecuritySchemeObject} {d : SecuritySchemeObject} :
    follow? schemes part = some d ↔ ∃ names, LeadsTo schemes names part d := by
  rw [follow?, followFrom?_eq_some_iff]
  constructor
  · rintro ⟨names, hleads, -⟩
    exact ⟨names, hleads⟩
  · rintro ⟨names, hleads⟩
    exact ⟨names, hleads, Nat.lt_succ_of_le hleads.length_le⟩

/-! ## Failures -/

theorem first?_eq_none_iff {flows : OAuthFlows} :
    flows.first? = none ↔ flows.password = none ∧ flows.implicit = none ∧
      flows.clientCredentials = none ∧ flows.authorizationCode = none := by
  simp [OAuthFlows.first?]

theorem kindOf_eq_oauth2_iff {schemeType : String} :
    kindOf schemeType = .oauth2 ↔ schemeType = "oauth2" := by
  unfold kindOf
  split <;> simp_all

/-- A declaration fails exactly when it is of OAuth 2 without flows. -/
theorem ofDeclaration_eq_error_iff {name : String} {d : SecuritySchemeObject} {failure : Failure} :
    ofDeclaration name d = .error failure ↔ failure = .noFlow name ∧ d.Flowless := by
  have hnone : d.flows.bind OAuthFlows.first? = none ↔ ∀ flows, d.flows = some flows →
      flows.password = none ∧ flows.implicit = none ∧
        flows.clientCredentials = none ∧ flows.authorizationCode = none := by
    rw [Option.bind_eq_none_iff]
    simp only [first?_eq_none_iff]
  unfold ofDeclaration
  dsimp only
  cases hkind : kindOf d.schemeType with
  | oauth2 =>
    have htype := kindOf_eq_oauth2_iff.mp hkind
    cases hflow : d.flows.bind OAuthFlows.first? with
    | none =>
      constructor
      · intro h
        exact ⟨(Except.error.inj h).symm, htype, hnone.mp hflow⟩
      · rintro ⟨rfl, -⟩
        rfl
    | some flow =>
      constructor
      · intro h
        exact absurd h (by simp)
      · rintro ⟨-, hflowless⟩
        rw [hnone.mpr hflowless.flows] at hflow
        exact absurd hflow (by simp)
  | _ =>
    constructor
    · intro h
      exact absurd h (by simp)
    · rintro ⟨-, hflowless⟩
      rw [kindOf_eq_oauth2_iff.mpr hflowless.oauth2] at hkind
      exact absurd hkind (by simp)

theorem value_ofDeclarations (ds : List (String × SecuritySchemeObject)) :
    (ofDeclarations ds).value = ds.mapM fun e => ofDeclaration e.1 e.2 := by
  induction ds with
  | nil => rfl
  | cons e ds ih =>
    rw [ofDeclarations, List.mapM_cons, ← ih]
    cases ofDeclaration e.1 e.2 with
    | error failure => rfl
    | ok s =>
      dsimp only
      split
      · rw [Noted.value_bind, Noted.value_bind]
        cases (ofDeclarations ds).value <;> rfl
      · rw [Noted.value_bind]
        cases (ofDeclarations ds).value <;> rfl

end SecurityScheme

/-- Some security scheme of the document leads to a scheme of OAuth 2 without flows. -/
def Document.Flowless (d : Document) : Prop :=
  ∃ e ∈ d.components.securitySchemes, ∃ names declared,
    SecurityScheme.LeadsTo d.components.securitySchemes names e.2 declared ∧ declared.Flowless

namespace SecurityScheme

/-- The declarations to which the schemes of a document lead. -/
def declarations (d : Document) : List (String × SecuritySchemeObject) :=
  d.components.securitySchemes.filterMap fun e =>
    (follow? d.components.securitySchemes e.2).map (e.1, ·)

theorem value_ofDocument (d : Document) :
    (ofDocument d).value = ((declarations d).mapM fun e => ofDeclaration e.1 e.2).map fun ss =>
      markHasMore (ss.mergeSort fun s t => s.name ≤ t.name) := by
  rw [← value_ofDeclarations]
  unfold ofDocument declarations
  dsimp only
  rw [Noted.value_bind]
  generalize (ofDeclarations _).value = made
  cases made <;> rfl

theorem exists_flowless_declaration_iff {d : Document} :
    (∃ e ∈ declarations d, e.2.Flowless) ↔ d.Flowless := by
  constructor
  · rintro ⟨e, he, hflowless⟩
    obtain ⟨part, hpart, hfollow⟩ := List.mem_filterMap.mp he
    obtain ⟨declared, hdeclared, rfl⟩ := Option.map_eq_some_iff.mp hfollow
    obtain ⟨names, hleads⟩ := follow?_eq_some_iff.mp hdeclared
    exact ⟨part, hpart, names, declared, hleads, hflowless⟩
  · rintro ⟨part, hpart, names, declared, hleads, hflowless⟩
    have hdeclared := follow?_eq_some_iff.mpr ⟨names, hleads⟩
    refine ⟨(part.1, declared), List.mem_filterMap.mpr ⟨part, hpart, ?_⟩, hflowless⟩
    rw [hdeclared, Option.map_some]

/-- The schemes of a document fail exactly when one of them leads to a scheme of OAuth 2 without
flows. -/
theorem ofDocument_eq_error_iff {d : Document} :
    (∃ failure, (ofDocument d).value = .error failure) ↔ d.Flowless := by
  have hmap : (∃ failure, (ofDocument d).value = .error failure) ↔
      ∃ failure, ((declarations d).mapM fun e => ofDeclaration e.1 e.2) = .error failure := by
    rw [value_ofDocument]
    cases (declarations d).mapM fun e => ofDeclaration e.1 e.2 <;> simp [Except.map]
  rw [hmap, List.exists_mapM_eq_error_iff, ← exists_flowless_declaration_iff]
  simp only [ofDeclaration_eq_error_iff, exists_eq_left]

/-- Such a failure is one of the security schemes. -/
theorem kind_of_ofDocument {d : Document} {failure : Failure}
    (h : (ofDocument d).value = .error failure) : failure.kind = .security := by
  rw [value_ofDocument] at h
  cases hall : (declarations d).mapM fun e => ofDeclaration e.1 e.2 with
  | ok ss =>
    rw [hall] at h
    exact absurd h (by simp [Except.map])
  | error failure' =>
    rw [hall] at h
    obtain rfl : failure' = failure := Except.error.inj h
    obtain ⟨e, -, hfailure⟩ := List.exists_of_mapM_eq_error hall
    rw [(ofDeclaration_eq_error_iff.mp hfailure).1]
    rfl

end SecurityScheme
end ApiResolution
