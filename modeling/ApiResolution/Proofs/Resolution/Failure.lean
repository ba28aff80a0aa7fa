import ApiResolution.Proofs.Operation.Filing
import ApiResolution.Proofs.Operation.Naming
import ApiResolution.Proofs.Security

/-!
When resolution fails. It fails in three stages, for the library, for the operations and for the
security schemes, and the first stage that fails decides the failure (`ofDocument_cases`). With the
neutral names there is one cause in each of them: a library that is not offered, an operation that
declares a name of which nothing is left, and an OAuth 2 scheme without flows
(`ofDocument_fails_iff`). All else that a document may hold is resolved.
-/

namespace ApiResolution

/-- A library is selected, and there are others to select from. -/
def Options.Refused (o : Options) (libraries : List String) : Prop :=
  ∃ library, o.library = some library ∧ libraries ≠ [] ∧ library ∉ libraries

/-- The operation declares a name that is not blank, and nothing of it is left. -/
def DeclaredOperation.Nameless (o : Options) (v : Conventions) (x : DeclaredOperation) : Prop :=
  ∃ id, x.declared.operationId = some id ∧ Text.trim id ≠ "" ∧
    v.operationName (Operation.shortened o (Text.trim id)) = ""

/-- Some operation of the document declares a name of which nothing is left. -/
def Document.Nameless (o : Options) (v : Conventions) (d : Document) : Prop :=
  ∃ x ∈ d.operations, x.Nameless o v

/-! ## Libraries -/

theorem Options.checkLibrary_eq_error_iff {o : Options} {libraries : List String} :
    (∃ failure, o.checkLibrary libraries = .error failure) ↔ o.Refused libraries := by
  unfold checkLibrary Refused
  cases o.library with
  | none => simp
  | some library =>
    dsimp only
    constructor
    · rintro ⟨failure, h⟩
      split at h
      · exact absurd h (by simp)
      · next hnot =>
        rw [Bool.or_eq_true, not_or, List.isEmpty_iff, List.contains_iff_mem] at hnot
        exact ⟨library, rfl, hnot.1, hnot.2⟩
    · rintro ⟨_, hlibrary, hne, hnot⟩
      obtain rfl := Option.some.inj hlibrary
      refine ⟨.unknownLibrary library libraries, if_neg ?_⟩
      rw [Bool.or_eq_true, not_or, List.isEmpty_iff, List.contains_iff_mem]
      exact ⟨hne, hnot⟩

theorem Options.kind_of_checkLibrary {o : Options} {libraries : List String} {failure : Failure}
    (h : o.checkLibrary libraries = .error failure) : failure.kind = .config := by
  unfold checkLibrary at h
  split at h
  · exact absurd h (by simp)
  · split at h
    · exact absurd h (by simp)
    · rw [← Except.error.inj h]
      rfl

/-! ## Operations -/

namespace DeclaredOperation

variable {c : Context} {models : ModelMap} {x : DeclaredOperation}

/-- An operation fails exactly when its name does, and as its name does. -/
theorem built_eq_error_iff {failure : Failure} : x.built c models = .error failure ↔
    (Operation.nameOf c x.path x.method x.declared).value = .error failure := by
  unfold built Operation.ofDeclaration
  rw [Noted.value_bind]
  cases (Operation.nameOf c x.path x.method x.declared).value with
  | error failure' =>
    constructor
    · intro h
      exact congrArg Except.error (Except.error.inj h)
    · intro h
      exact congrArg Except.error (Except.error.inj h)
  | ok name =>
    constructor
    · intro h
      exact absurd h (by simp)
    · intro h
      exact absurd h (by simp)

theorem declaredName?_eq_some_iff {d : OperationObject} {name : String} :
    Operation.declaredName? d = some name ↔
      ∃ id, d.operationId = some id ∧ Text.trim id = name ∧ name ≠ "" := by
  rw [Operation.declaredName?, Option.filter_eq_some_iff, Option.map_eq_some_iff]
  constructor
  · rintro ⟨⟨id, hid, hname⟩, hne⟩
    exact ⟨id, hid, hname, by simpa using hne⟩
  · rintro ⟨id, hid, hname, hne⟩
    exact ⟨⟨id, hid, hname⟩, by simpa using hne⟩

theorem exists_built_eq_error_iff (x : DeclaredOperation) {unicode : Bool}
    {libraries : List String} (hv : c.conventions = .offering unicode libraries) :
    (∃ failure, x.built c models = .error failure) ↔ x.Nameless c.options c.conventions := by
  simp only [built_eq_error_iff]
  rw [Operation.nameOf_eq_error_iff hv]
  constructor
  · rintro ⟨name, hname, hempty⟩
    obtain ⟨id, hid, rfl, hne⟩ := declaredName?_eq_some_iff.mp hname
    exact ⟨id, hid, hne, hempty⟩
  · rintro ⟨id, hid, hne, hempty⟩
    exact ⟨Text.trim id, declaredName?_eq_some_iff.mpr ⟨id, hid, rfl, hne⟩, hempty⟩

/-- An operation without a name of its own is always made. -/
theorem exists_built_of_unnamed (x : DeclaredOperation) {unicode : Bool} {libraries : List String}
    (hv : c.conventions = .offering unicode libraries) (hx : x.declared.operationId = none) :
    ∃ made, x.built c models = .ok made := by
  cases hmade : x.built c models with
  | ok made => exact ⟨made, rfl⟩
  | error failure =>
    obtain ⟨id, hid, -⟩ := (x.exists_built_eq_error_iff hv).mp ⟨failure, hmade⟩
    rw [hx] at hid
    exact absurd hid (by simp)

theorem Alike.nameless_iff {x' : DeclaredOperation} (h : x.Alike x') (o : Options)
    (v : Conventions) : x'.Nameless o v ↔ x.Nameless o v := by
  rw [Nameless, Nameless, h.operationId]

theorem kind_of_built {failure : Failure} (h : x.built c models = .error failure) :
    failure.kind = .resolution := by
  have hname := built_eq_error_iff.mp h
  rw [Operation.value_nameOf] at hname
  dsimp only at hname
  split at hname
  · rw [← Except.error.inj hname]
    rfl
  · exact absurd hname (by simp)

end DeclaredOperation

namespace Buckets

variable {c : Context} {models : ModelMap}

theorem ofDocument_eq_error_iff {failure : Failure} :
    (ofDocument c models).value = .error failure ↔
      c.document.operations.mapM (DeclaredOperation.built c models) = .error failure := by
  rw [ofDocument, value_addDeclared]
  cases c.document.operations.mapM (DeclaredOperation.built c models) with
  | error failure' =>
    constructor
    · intro h
      exact congrArg Except.error (Except.error.inj h)
    · intro h
      exact congrArg Except.error (Except.error.inj h)
  | ok os =>
    constructor
    · intro h
      exact absurd h (by simp [Except.map])
    · intro h
      exact absurd h (by simp)

theorem kind_of_ofDocument {failure : Failure} (h : (ofDocument c models).value = .error failure) :
    failure.kind = .resolution := by
  obtain ⟨x, -, hx⟩ := List.exists_of_mapM_eq_error (ofDocument_eq_error_iff.mp h)
  exact DeclaredOperation.kind_of_built hx

end Buckets

/-! ## Stages -/

namespace Resolution

/-- The operations of a document fail exactly when one of them declares a name of which nothing is
left. -/
theorem exists_operations_eq_error_iff {o : Options} {unicode : Bool} {libraries : List String}
    {d : Document} {models : ModelMap} :
    (∃ failure, (Buckets.ofDocument (context o (.offering unicode libraries) d) models).value =
      .error failure) ↔ d.Nameless o (.offering unicode libraries) := by
  have hfails : ∀ x : DeclaredOperation,
      (∃ failure, x.built (context o (.offering unicode libraries) d) models = .error failure) ↔
        x.Nameless o (.offering unicode libraries) :=
    fun x => x.exists_built_eq_error_iff rfl
  have halike := forall₂_operations_context o (.offering unicode libraries) d
  simp only [Buckets.ofDocument_eq_error_iff]
  rw [List.exists_mapM_eq_error_iff]
  constructor
  · rintro ⟨x', hx', hfailure⟩
    obtain ⟨x, hx, hxx'⟩ := halike.exists_of_mem_right hx'
    exact ⟨x, hx, (hxx'.nameless_iff _ _).mp ((hfails x').mp hfailure)⟩
  · rintro ⟨x, hx, hnameless⟩
    obtain ⟨x', hx', hxx'⟩ := halike.exists_of_mem_left hx
    exact ⟨x', hx', (hfails x').mpr ((hxx'.nameless_iff _ _).mpr hnameless)⟩

theorem flowless_context_iff {o : Options} {v : Conventions} {d : Document} :
    (context o v d).document.Flowless ↔ d.Flowless := by
  rw [context, value_distinctNames]
  split <;> exact Iff.rfl

/-- The parts of a resolution fail as its operations do, else as its security schemes do. -/
theorem value_parts (o : Options) (v : Conventions) (d : Document) :
    (parts o v d).value =
      let c := context o v d
      let models := (ModelMap.ofDocument c).value
      match (Buckets.ofDocument c models).value with
      | .error failure => .error failure
      | .ok operations =>
        (SecurityScheme.ofDocument c.document).value.map fun security =>
          { models, operations, security } := by
  unfold parts context
  simp only [Noted.value_bind]
  generalize (distinctNames o d).value = document
  generalize (ModelMap.ofDocument ⟨o, v, document⟩).value = models
  cases (Buckets.ofDocument ⟨o, v, document⟩ models).value with
  | error failure => rfl
  | ok operations =>
    simp only [Noted.value_bind]
    cases (SecurityScheme.ofDocument document).value <;> rfl

/-- The first stage that fails decides the failure. -/
theorem ofDocument_cases (o : Options) (v : Conventions) (d : Document) :
    let operations := (Buckets.ofDocument (context o v d)
      (ModelMap.ofDocument (context o v d)).value).value
    let security := (SecurityScheme.ofDocument (context o v d).document).value
    (∃ failure, o.checkLibrary v.supportedLibraries = .error failure ∧
      ofDocument o v d = .error failure) ∨
    (o.checkLibrary v.supportedLibraries = .ok () ∧ ∃ failure, operations = .error failure ∧
      ofDocument o v d = .error failure) ∨
    (o.checkLibrary v.supportedLibraries = .ok () ∧ (∃ buckets, operations = .ok buckets) ∧
      ∃ failure, security = .error failure ∧ ofDocument o v d = .error failure) ∨
    (o.checkLibrary v.supportedLibraries = .ok () ∧ (∃ buckets, operations = .ok buckets) ∧
      (∃ schemes, security = .ok schemes) ∧ ∃ r, ofDocument o v d = .ok r) := by
  unfold ofDocument
  dsimp only
  rw [value_parts]
  dsimp only
  cases o.checkLibrary v.supportedLibraries with
  | error failure => exact .inl ⟨failure, rfl, rfl⟩
  | ok _ =>
    cases (Buckets.ofDocument (context o v d) (ModelMap.ofDocument (context o v d)).value).value with
    | error failure => exact .inr (.inl ⟨rfl, failure, rfl, rfl⟩)
    | ok buckets =>
      cases (SecurityScheme.ofDocument (context o v d).document).value with
      | error failure => exact .inr (.inr (.inl ⟨rfl, ⟨buckets, rfl⟩, failure, rfl, rfl⟩))
      | ok schemes => exact .inr (.inr (.inr ⟨rfl, ⟨buckets, rfl⟩, ⟨schemes, rfl⟩, _, rfl⟩))

/-- A resolution fails as its library does, else as its operations do, else as its security schemes
do. -/
theorem ofDocument_eq_error_iff {o : Options} {v : Conventions} {d : Document} {failure : Failure} :
    ofDocument o v d = .error failure ↔
      o.checkLibrary v.supportedLibraries = .error failure ∨
      o.checkLibrary v.supportedLibraries = .ok () ∧
        ((Buckets.ofDocument (context o v d) (ModelMap.ofDocument (context o v d)).value).value =
            .error failure ∨
          (∃ buckets, (Buckets.ofDocument (context o v d)
            (ModelMap.ofDocument (context o v d)).value).value = .ok buckets) ∧
          (SecurityScheme.ofDocument (context o v d).document).value = .error failure) := by
  rcases ofDocument_cases o v d with ⟨failure', hl, hr⟩ | ⟨hl, failure', hb, hr⟩ |
    ⟨hl, ⟨buckets, hb⟩, failure', hs, hr⟩ | ⟨hl, ⟨buckets, hb⟩, ⟨schemes, hs⟩, r, hr⟩
  · simp [hr, hl]
  · simp [hr, hl, hb]
  · simp [hr, hl, hb, hs]
  · simp [hr, hl, hb, hs]

/-- Which failures there are when resolution ends in the given one. -/
theorem exists_kind_iff {o : Options} {v : Conventions} {d : Document} {failure : Failure}
    (h : ofDocument o v d = .error failure) (kind : FailureKind) :
    (∃ other, ofDocument o v d = .error other ∧ other.kind = kind) ↔ failure.kind = kind := by
  constructor
  · rintro ⟨other, hother, hkind⟩
    obtain rfl := Except.error.inj (h.symm.trans hother)
    exact hkind
  · intro hkind
    exact ⟨failure, h, hkind⟩

/-- With the neutral names, resolution fails for a library that is not offered, else for an operation
that declares a name of which nothing is left, else for an OAuth 2 scheme without flows, and for
nothing else. An operation without a name of its own is always made. -/
theorem ofDocument_fails_iff (o : Options) (unicode : Bool) (libraries : List String)
    (d : Document) :
    let v := Conventions.offering unicode libraries
    ((∃ failure, ofDocument o v d = .error failure) ↔
      o.Refused libraries ∨ d.Nameless o v ∨ d.Flowless) ∧
    ((∃ failure, ofDocument o v d = .error failure ∧ failure.kind = .config) ↔
      o.Refused libraries) ∧
    ((∃ failure, ofDocument o v d = .error failure ∧ failure.kind = .resolution) ↔
      ¬ o.Refused libraries ∧ d.Nameless o v) ∧
    ((∃ failure, ofDocument o v d = .error failure ∧ failure.kind = .security) ↔
      ¬ o.Refused libraries ∧ ¬ d.Nameless o v ∧ d.Flowless) ∧
    ∀ (models : ModelMap) (x : DeclaredOperation), x.declared.operationId = none →
      ∃ made, x.built (context o v d) models = .ok made := by
  intro v
  have hlibrary : (∃ failure, o.checkLibrary v.supportedLibraries = .error failure) ↔
      o.Refused libraries := Options.checkLibrary_eq_error_iff
  have hoperations : (∃ failure, (Buckets.ofDocument (context o v d)
      (ModelMap.ofDocument (context o v d)).value).value = .error failure) ↔ d.Nameless o v :=
    exists_operations_eq_error_iff
  have hsecurity : (∃ failure, (SecurityScheme.ofDocument (context o v d).document).value =
      .error failure) ↔ d.Flowless :=
    SecurityScheme.ofDocument_eq_error_iff.trans flowless_context_iff
  have hv : (context o v d).conventions = .offering unicode libraries := rfl
  have hunnamed : ∀ (models : ModelMap) (x : DeclaredOperation), x.declared.operationId = none →
      ∃ made, x.built (context o v d) models = .ok made :=
    fun _ x hx => x.exists_built_of_unnamed hv hx
  -- In each case one stage is known to fail, and those before it are known not to.
  rcases ofDocument_cases o v d with ⟨failure, hl, hr⟩ | ⟨hl, failure, hb, hr⟩ |
    ⟨hl, ⟨buckets, hb⟩, failure, hs, hr⟩ | ⟨hl, ⟨buckets, hb⟩, ⟨schemes, hs⟩, r, hr⟩
  · have hrefused : o.Refused libraries := hlibrary.mp ⟨failure, hl⟩
    have hkind : failure.kind = .config := Options.kind_of_checkLibrary hl
    simp only [exists_kind_iff hr]
    simpa [hr, hkind, hrefused] using hunnamed
  · have hrefused : ¬ o.Refused libraries := by simp [← hlibrary, hl]
    have hnameless : d.Nameless o v := hoperations.mp ⟨failure, hb⟩
    have hkind : failure.kind = .resolution := Buckets.kind_of_ofDocument hb
    simp only [exists_kind_iff hr]
    simpa [hr, hkind, hrefused, hnameless] using hunnamed
  · have hrefused : ¬ o.Refused libraries := by simp [← hlibrary, hl]
    have hnameless : ¬ d.Nameless o v := by simp [← hoperations, hb]
    have hflowless : d.Flowless := hsecurity.mp ⟨failure, hs⟩
    have hkind : failure.kind = .security := SecurityScheme.kind_of_ofDocument hs
    simp only [exists_kind_iff hr]
    simpa [hr, hkind, hrefused, hnameless, hflowless] using hunnamed
  · have hrefused : ¬ o.Refused libraries := by simp [← hlibrary, hl]
    have hnameless : ¬ d.Nameless o v := by simp [← hoperations, hb]
    have hflowless : ¬ d.Flowless := by simp [← hsecurity, hs]
    simpa [hr, hrefused, hnameless, hflowless] using hunnamed

end Resolution
end ApiResolution
