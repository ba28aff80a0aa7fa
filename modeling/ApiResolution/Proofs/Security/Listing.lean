import ApiResolution.Proofs.Marks
import ApiResolution.Proofs.Resolution
import ApiResolution.Proofs.Security
import Mathlib.Data.List.Nodup
import Mathlib.Data.String.Basic

/-!
The list of security schemes that a document describes. References lead from a part to a
declaration, or to a name without a scheme, or around a circle, and never to two of these
(`lost_iff`). The list has one entry for each scheme that leads to a declaration and none for the
others, and its names ascend (`lists_ofDocument`). A scheme of OAuth 2 shows the flow of its
declaration that comes first in the order of `FlowKind.rank`.
-/

namespace ApiResolution

/-! ## Flows -/

/-- The place of a flow among those of a declaration; a lower one is preferred. -/
def FlowKind.rank : FlowKind → Nat
  | password => 0
  | implicit => 1
  | application => 2
  | accessCode => 3

namespace OAuthFlows

/-- The declared flow of a kind. -/
def flow? (flows : OAuthFlows) : FlowKind → Option OAuthFlow
  | .password => flows.password
  | .implicit => flows.implicit
  | .application => flows.clientCredentials
  | .accessCode => flows.authorizationCode

/-- The flow of a kind is declared, and none of a kind that is preferred to it. -/
structure FirstDeclared (flows : OAuthFlows) (kind : FlowKind) (flow : OAuthFlow) : Prop where
  declared : flows.flow? kind = some flow
  first : ∀ other : FlowKind, other.rank < kind.rank → flows.flow? other = none

theorem firstDeclared_of_first? {flows : OAuthFlows} {kind : FlowKind} {flow : OAuthFlow}
    (h : flows.first? = some (kind, flow)) : flows.FirstDeclared kind flow := by
  simp only [first?, Option.or_eq_some_iff, Option.map_eq_some_iff, Option.map_eq_none_iff,
    Prod.mk.injEq] at h
  -- The flows before the one that is found are the ones that the search has passed.
  rcases h with ⟨_, h, rfl, rfl⟩ | ⟨hpassword, ⟨_, h, rfl, rfl⟩ | ⟨himplicit,
    ⟨_, h, rfl, rfl⟩ | ⟨hcredentials, _, h, rfl, rfl⟩⟩⟩
  all_goals
    refine ⟨h, ?_⟩
    intro other hlt
    cases other <;> first | assumption | exact absurd hlt (by decide)

end OAuthFlows

/-! ## Schemes without repeated names -/

namespace Document

/-- No two security schemes have the same name. -/
def DistinctSecuritySchemes (d : Document) : Prop :=
  (Entries.keys d.components.securitySchemes).Nodup

instance (d : Document) : Decidable d.DistinctSecuritySchemes :=
  inferInstanceAs (Decidable (Entries.keys d.components.securitySchemes).Nodup)

theorem nodup_keys_readSecuritySchemes {source : Source} {c : Components}
    (h : Components.read? source = some c) : (Entries.keys c.securitySchemes).Nodup := by
  unfold Components.read? at h
  obtain ⟨_, -, h⟩ := Option.bind_eq_some_iff.mp h
  obtain ⟨_, -, h⟩ := Option.bind_eq_some_iff.mp h
  obtain ⟨_, -, h⟩ := Option.bind_eq_some_iff.mp h
  obtain ⟨_, -, h⟩ := Option.bind_eq_some_iff.mp h
  obtain ⟨_, -, h⟩ := Option.bind_eq_some_iff.mp h
  obtain ⟨_, -, h⟩ := Option.bind_eq_some_iff.mp h
  obtain ⟨schemes, hs, h⟩ := Option.bind_eq_some_iff.mp h
  obtain rfl := Option.some.inj h
  rcases Source.field?_eq_some hs with rfl | ⟨source, hs⟩
  · exact List.nodup_nil
  · exact Source.nodup_keys_entries? hs

/-- A document that was read has no name of a security scheme twice. -/
theorem distinctSecuritySchemes_read? {source : Source} {d : Document}
    (h : read? source = some d) : d.DistinctSecuritySchemes := by
  unfold read? at h
  obtain ⟨_, -, h⟩ := Option.bind_eq_some_iff.mp h
  obtain ⟨_, -, h⟩ := Option.bind_eq_some_iff.mp h
  obtain ⟨_, -, h⟩ := Option.bind_eq_some_iff.mp h
  obtain ⟨_, -, h⟩ := Option.bind_eq_some_iff.mp h
  obtain ⟨components, hc, h⟩ := Option.bind_eq_some_iff.mp h
  obtain ⟨_, -, h⟩ := Option.bind_eq_some_iff.mp h
  obtain rfl := Option.some.inj h
  rcases Source.field?_eq_some hc with rfl | ⟨source, hc⟩
  · exact List.nodup_nil
  · exact nodup_keys_readSecuritySchemes hc

end Document

namespace SecurityScheme

variable {schemes : Entries (OrReference SecuritySchemeObject)}

/-! ## Where references lead -/

/-- References lead from a part over the names to another part. -/
inductive Passes (schemes : Entries (OrReference SecuritySchemeObject)) :
    List String → OrReference SecuritySchemeObject → OrReference SecuritySchemeObject → Prop
  | here (part : OrReference SecuritySchemeObject) : Passes schemes [] part part
  | reference {target : String} {next last : OrReference SecuritySchemeObject}
      {names : List String} (link : Entries.lookup? (lastSegment target) schemes = some next)
      (rest : Passes schemes names next last) :
      Passes schemes (lastSegment target :: names) (.reference target) last

/-- References lead from a part to one whose name is no scheme. -/
def Misses (schemes : Entries (OrReference SecuritySchemeObject))
    (part : OrReference SecuritySchemeObject) : Prop :=
  ∃ names target, Passes schemes names part (.reference target) ∧
    Entries.lookup? (lastSegment target) schemes = none

/-- References lead from a part to one that they lead back to. -/
def Circles (schemes : Entries (OrReference SecuritySchemeObject))
    (part : OrReference SecuritySchemeObject) : Prop :=
  ∃ names between around, Passes schemes names part between ∧
    Passes schemes around between between ∧ around ≠ []

variable {names others : List String} {part between last : OrReference SecuritySchemeObject}
  {d : SecuritySchemeObject}

namespace Passes

theorem append_leadsTo (h : Passes schemes names part last) (h' : LeadsTo schemes others last d) :
    LeadsTo schemes (names ++ others) part d := by
  induction h with
  | here part => exact h'
  | reference link rest ih => exact .reference link (ih h')

/-- There is one way to a declaration, so that every part on the way leads to it. -/
theorem exists_leadsTo (h : Passes schemes names part last) (h' : LeadsTo schemes others part d) :
    ∃ rest, LeadsTo schemes rest last d := by
  induction h generalizing others with
  | here part => exact ⟨others, h'⟩
  | reference link rest ih =>
    cases h' with
    | reference link' rest' =>
      obtain rfl := Option.some.inj (link.symm.trans link')
      exact ih rest'

/-- A name on the way stands for a part on the way. -/
theorem of_mem (h : Passes schemes names part last) {name : String} (hn : name ∈ names) :
    ∃ between before, Entries.lookup? name schemes = some between ∧
      Passes schemes before part between ∧ before ≠ [] := by
  induction h with
  | here part => simp at hn
  | @reference target next last names link rest ih =>
    rcases List.mem_cons.mp hn with rfl | hn
    · exact ⟨next, _, link, .reference link (.here next), by simp⟩
    · obtain ⟨between, before, hbetween, hbefore, -⟩ := ih hn
      exact ⟨between, _, hbetween, .reference link hbefore, by simp⟩

/-- A way that meets a name twice goes around a circle. -/
theorem circles (h : Passes schemes names part last) (hn : ¬ names.Nodup) :
    Circles schemes part := by
  induction h with
  | here part => exact absurd List.nodup_nil hn
  | @reference target next last names link rest ih =>
    by_cases hmem : lastSegment target ∈ names
    · obtain ⟨between, around, hbetween, haround, hne⟩ := rest.of_mem hmem
      obtain rfl := Option.some.inj (link.symm.trans hbetween)
      exact ⟨_, next, around, .reference link (.here next), haround, hne⟩
    · have hrest : ¬ names.Nodup := fun h => hn (List.nodup_cons.mpr ⟨hmem, h⟩)
      obtain ⟨before, between, around, hbefore, haround, hne⟩ := ih hrest
      exact ⟨_, between, around, .reference link hbefore, haround, hne⟩

theorem names_subset (h : Passes schemes names part last) : names ⊆ Entries.keys schemes := by
  intro name hname
  obtain ⟨between, -, hbetween, -⟩ := h.of_mem hname
  exact Entries.mem_keys_of_lookup? hbetween

end Passes

/-- A part leads to a declaration, or to a name without a scheme, or over as many names as asked
for. -/
theorem exists_leadsTo_or_misses_or_passes (count : Nat)
    (part : OrReference SecuritySchemeObject) :
    (∃ names d, LeadsTo schemes names part d) ∨ Misses schemes part ∨
      ∃ names last, Passes schemes names part last ∧ names.length = count := by
  induction count generalizing part with
  | zero => exact .inr (.inr ⟨[], part, .here part, rfl⟩)
  | succ count ih =>
    cases part with
    | inline d => exact .inl ⟨[], d, .inline d⟩
    | reference target =>
      cases hnext : Entries.lookup? (lastSegment target) schemes with
      | none => exact .inr (.inl ⟨[], target, .here _, hnext⟩)
      | some next =>
        rcases ih next with ⟨names, d, h⟩ | ⟨names, missing, h, hmissing⟩ | ⟨names, last, h, hlen⟩
        · exact .inl ⟨_, d, .reference hnext h⟩
        · exact .inr (.inl ⟨_, missing, .reference hnext h, hmissing⟩)
        · exact .inr (.inr ⟨_, last, .reference hnext h, congrArg Nat.succ hlen⟩)

/-- A part leads to no declaration exactly when it leads to a name without a scheme or around a
circle. -/
theorem lost_iff {part : OrReference SecuritySchemeObject} :
    Misses schemes part ∨ Circles schemes part ↔ ∀ names d, ¬ LeadsTo schemes names part d := by
  constructor
  · rintro (⟨before, target, hbefore, hmissing⟩ | ⟨before, between, around, hbefore, haround, hne⟩)
      names d hleads
    · obtain ⟨rest, hrest⟩ := hbefore.exists_leadsTo hleads
      cases hrest with
      | reference link rest => exact absurd (hmissing.symm.trans link) (by simp)
    · obtain ⟨rest, hrest⟩ := hbefore.exists_leadsTo hleads
      obtain ⟨heq, -⟩ := hrest.unique (haround.append_leadsTo hrest)
      exact hne (List.append_left_eq_self.mp heq.symm)
  · intro hno
    -- A way over more names than there are schemes meets a name twice.
    rcases exists_leadsTo_or_misses_or_passes (schemes.length + 1) part with
      ⟨names, d, h⟩ | h | ⟨names, last, h, hlen⟩
    · exact absurd h (hno names d)
    · exact .inl h
    · refine .inr (h.circles ?_)
      intro hnodup
      have hle := (hnodup.subperm h.names_subset).length_le
      rw [Entries.keys, List.length_map] at hle
      omega

/-! ## Entries -/

/-- A scheme shows its declaration: its type, and in OAuth 2 the first declared flow. -/
structure Shows (s : SecurityScheme) (d : SecuritySchemeObject) : Prop where
  schemeType : s.schemeType = d.schemeType
  oauth2 : s.kind = .oauth2 ↔ d.schemeType = "oauth2"
  flow : s.kind = .oauth2 → ∃ flows kind flow, d.flows = some flows ∧
    flows.FirstDeclared kind flow ∧ s.flow = some kind ∧
    s.authorizationUrl = flow.authorizationUrl ∧ s.tokenUrl = flow.tokenUrl ∧
    s.refreshUrl = flow.refreshUrl ∧ s.scopes = flow.scopes

theorem shows_ofDeclaration {name : String} {d : SecuritySchemeObject} {s : SecurityScheme}
    (h : ofDeclaration name d = .ok s) : s.name = name ∧ s.Shows d := by
  unfold ofDeclaration at h
  dsimp only at h
  cases hkind : kindOf d.schemeType with
  | oauth2 =>
    have htype := kindOf_eq_oauth2_iff.mp hkind
    rw [hkind] at h
    dsimp only at h
    split at h
    · next kind flow hflow =>
      obtain ⟨flows, hflows, hfirst⟩ := Option.bind_eq_some_iff.mp hflow
      obtain rfl := Except.ok.inj h
      refine ⟨rfl, rfl, ⟨fun _ => htype, fun _ => rfl⟩, fun _ => ?_⟩
      exact ⟨flows, kind, flow, hflows, OAuthFlows.firstDeclared_of_first? hfirst, rfl, rfl, rfl,
        rfl, rfl⟩
    · exact absurd h (by simp)
  | _ =>
    have htype : d.schemeType ≠ "oauth2" := by
      intro htype
      rw [kindOf_eq_oauth2_iff.mpr htype] at hkind
      exact absurd hkind (by simp)
    rw [hkind] at h
    obtain rfl := Except.ok.inj h
    exact ⟨rfl, rfl, ⟨fun h => absurd h (by simp [withKey, withHttp]), fun h => absurd h htype⟩,
      fun h => absurd h (by simp [withKey, withHttp])⟩

/-- A list of security schemes has one entry for each scheme that leads to a declaration and none
for the others, sorted by name. -/
structure Lists (schemes : Entries (OrReference SecuritySchemeObject))
    (ss : List SecurityScheme) : Prop where
  ascending : (ss.map SecurityScheme.name).Pairwise (· < ·)
  listed : ∀ e ∈ schemes, (∃! s, s ∈ ss ∧ s.name = e.1) ↔ ∃ names d, LeadsTo schemes names e.2 d
  leftOut : ∀ e ∈ schemes, (∀ s ∈ ss, s.name ≠ e.1) ↔ Misses schemes e.2 ∨ Circles schemes e.2
  shown : ∀ s ∈ ss, ∃ part names d, Entries.lookup? s.name schemes = some part ∧
    LeadsTo schemes names part d ∧ s.Shows d

theorem mem_declarations_iff {d : Document} {e : String × SecuritySchemeObject} :
    e ∈ declarations d ↔ ∃ part, (e.1, part) ∈ d.components.securitySchemes ∧
      ∃ names, LeadsTo d.components.securitySchemes names part e.2 := by
  unfold declarations
  rw [List.mem_filterMap]
  constructor
  · rintro ⟨entry, hentry, hfollow⟩
    obtain ⟨found, hfound, rfl⟩ := Option.map_eq_some_iff.mp hfollow
    exact ⟨entry.2, hentry, follow?_eq_some_iff.mp hfound⟩
  · rintro ⟨part, hpart, hleads⟩
    refine ⟨(e.1, part), hpart, ?_⟩
    rw [follow?_eq_some_iff.mpr hleads, Option.map_some]

theorem nodup_keys_declarations {d : Document} (hd : d.DistinctSecuritySchemes) :
    (Entries.keys (declarations d)).Nodup := by
  have hpairwise : (declarations d).Pairwise fun e e' => e.1 ≠ e'.1 := by
    refine (List.pairwise_map.mp hd).filterMap _ ?_
    intro e e' hne entry hentry entry' hentry'
    obtain ⟨_, -, rfl⟩ := Option.map_eq_some_iff.mp hentry
    obtain ⟨_, -, rfl⟩ := Option.map_eq_some_iff.mp hentry'
    exact hne
  exact List.pairwise_map.mpr hpairwise

/-- Distinct names ascend when they are sorted. -/
theorem ascending_mergeSort {ss : List SecurityScheme} (hn : (ss.map SecurityScheme.name).Nodup) :
    ((ss.mergeSort fun s t => s.name ≤ t.name).map SecurityScheme.name).Pairwise (· < ·) := by
  have hsorted : (ss.mergeSort fun s t => s.name ≤ t.name).Pairwise fun s t =>
      decide (s.name ≤ t.name) = true := by
    apply List.pairwise_mergeSort
    · intro s t u hst htu
      exact decide_eq_true (le_trans (of_decide_eq_true hst) (of_decide_eq_true htu))
    · intro s t
      rcases le_total s.name t.name with h | h <;> simp [h]
  have hdistinct : (ss.mergeSort fun s t => s.name ≤ t.name).Pairwise fun s t =>
      s.name ≠ t.name := by
    have hperm := (List.mergeSort_perm ss fun s t => s.name ≤ t.name).map SecurityScheme.name
    exact List.pairwise_map.mp (hperm.nodup_iff.mpr hn)
  rw [List.pairwise_map]
  refine (hsorted.and hdistinct).imp ?_
  rintro s t ⟨hle, hne⟩
  exact lt_of_le_of_ne (of_decide_eq_true hle) hne

section

variable {document : Document} {ss : List SecurityScheme}

/-- The schemes of a document are those of its declarations, sorted and marked. -/
theorem exists_of_ofDocument (h : (ofDocument document).value = .ok ss) :
    ∃ made, List.Forall₂ (fun e s => ofDeclaration e.1 e.2 = .ok s) (declarations document) made ∧
      ss = markHasMore (made.mergeSort fun s t => s.name ≤ t.name) := by
  rw [value_ofDocument] at h
  cases hmade : (declarations document).mapM fun e => ofDeclaration e.1 e.2 with
  | error failure =>
    rw [hmade] at h
    exact absurd h (by simp [Except.map])
  | ok made =>
    rw [hmade] at h
    exact ⟨made, List.mapM_eq_ok_iff.mp hmade, (Except.ok.inj h).symm⟩

theorem map_name_markHasMore (ss : List SecurityScheme) :
    (markHasMore ss).map SecurityScheme.name = ss.map SecurityScheme.name := by
  rw [markHasMore_eq, map_setMarks]
  intro more s
  rfl

theorem map_name_eq_keys {es : List (String × SecuritySchemeObject)} {made : List SecurityScheme}
    (h : List.Forall₂ (fun e s => ofDeclaration e.1 e.2 = .ok s) es made) :
    made.map SecurityScheme.name = Entries.keys es := by
  refine (h.map_eq ?_).symm
  intro e s hs
  exact (shows_ofDeclaration hs).1.symm

/-- The names of the schemes of a document are those that lead to a declaration. -/
theorem mem_names_ofDocument_iff (h : (ofDocument document).value = .ok ss) {name : String} :
    name ∈ ss.map SecurityScheme.name ↔ ∃ part, (name, part) ∈
      document.components.securitySchemes ∧
        ∃ names d, LeadsTo document.components.securitySchemes names part d := by
  obtain ⟨made, hmade, rfl⟩ := exists_of_ofDocument h
  have hsorted := (List.mergeSort_perm made fun s t => s.name ≤ t.name).map SecurityScheme.name
  rw [map_name_markHasMore, hsorted.mem_iff, map_name_eq_keys hmade, Entries.keys, List.mem_map]
  constructor
  · rintro ⟨e, he, rfl⟩
    obtain ⟨part, hpart, names, hleads⟩ := mem_declarations_iff.mp he
    exact ⟨part, hpart, names, e.2, hleads⟩
  · rintro ⟨part, hpart, names, d, hleads⟩
    exact ⟨(name, d), mem_declarations_iff.mpr ⟨part, hpart, names, hleads⟩, rfl⟩

theorem ascending_ofDocument (hd : document.DistinctSecuritySchemes)
    (h : (ofDocument document).value = .ok ss) :
    (ss.map SecurityScheme.name).Pairwise (· < ·) := by
  obtain ⟨made, hmade, rfl⟩ := exists_of_ofDocument h
  rw [map_name_markHasMore]
  apply ascending_mergeSort
  rw [map_name_eq_keys hmade]
  exact nodup_keys_declarations hd

theorem shown_ofDocument (hd : document.DistinctSecuritySchemes)
    (h : (ofDocument document).value = .ok ss) : ∀ s ∈ ss, ∃ part names d,
      Entries.lookup? s.name document.components.securitySchemes = some part ∧
        LeadsTo document.components.securitySchemes names part d ∧ s.Shows d := by
  obtain ⟨made, hmade, rfl⟩ := exists_of_ofDocument h
  rw [markHasMore_eq]
  -- The marks are no part of what a scheme shows.
  refine forall_mem_setMarks ?_ ?_
  · rintro more s ⟨part, names, d, hpart, hleads, hshows⟩
    exact ⟨part, names, d, hpart, hleads, hshows.schemeType, hshows.oauth2, hshows.flow⟩
  · intro s hs
    obtain ⟨e, he, hes⟩ := hmade.exists_of_mem_right (List.mem_mergeSort.mp hs)
    obtain ⟨hname, hshows⟩ := shows_ofDeclaration hes
    obtain ⟨part, hpart, names, hleads⟩ := mem_declarations_iff.mp he
    refine ⟨part, names, e.2, ?_, hleads, hshows⟩
    rw [hname]
    exact Entries.lookup?_of_mem hd hpart

/-- The schemes of a document have one entry for each scheme that leads to a declaration and none
for the others, sorted by name. -/
theorem lists_ofDocument (hd : document.DistinctSecuritySchemes)
    (h : (ofDocument document).value = .ok ss) : Lists document.components.securitySchemes ss := by
  have hascending := ascending_ofDocument hd h
  have hnodup : (ss.map SecurityScheme.name).Nodup := hascending.imp ne_of_lt
  have hmem : ∀ e ∈ document.components.securitySchemes, e.1 ∈ ss.map SecurityScheme.name ↔
      ∃ names d, LeadsTo document.components.securitySchemes names e.2 d := by
    intro e he
    rw [mem_names_ofDocument_iff h]
    constructor
    · rintro ⟨part, hpart, hleads⟩
      have hfound := Entries.lookup?_of_mem hd hpart
      rw [Entries.lookup?_of_mem hd he] at hfound
      rwa [Option.some.inj hfound]
    · intro hleads
      exact ⟨e.2, he, hleads⟩
  refine ⟨hascending, ?_, ?_, shown_ofDocument hd h⟩
  · intro e he
    rw [← hmem e he]
    constructor
    · rintro ⟨s, ⟨hs, hname⟩, -⟩
      exact List.mem_map.mpr ⟨s, hs, hname⟩
    · intro hname
      obtain ⟨s, hs, hname⟩ := List.mem_map.mp hname
      refine ⟨s, ⟨hs, hname⟩, ?_⟩
      rintro t ⟨ht, hname'⟩
      exact List.inj_on_of_nodup_map hnodup ht hs (hname'.trans hname.symm)
  · intro e he
    have hout : (∀ s ∈ ss, s.name ≠ e.1) ↔ e.1 ∉ ss.map SecurityScheme.name := by
      simp [List.mem_map]
    rw [hout, hmem e he, lost_iff]
    simp only [not_exists]

end

/-- A document in which references lead to two declarations, to a name without a scheme and around a
circle. -/
def linkedSchemes : Document :=
  { components :=
      { securitySchemes :=
          [("store", .reference "#/components/securitySchemes/alias"),
            ("round", .reference "other.yaml#/components/securitySchemes/about"),
            ("about", .reference "round"),
            ("alias", .reference "oauth"),
            ("oauth", .inline
              { schemeType := "oauth2"
                flows := some
                  { authorizationCode := some { tokenUrl := some "/token" }
                    implicit := some
                      { authorizationUrl := some "/dialog", scopes := [("read", "pets")] } } }),
            ("gone", .reference "#/components/securitySchemes/nothing"),
            ("key", .inline { schemeType := "apiKey", name := some "X-Key" })] } }

/-- A scheme that leads to a declaration over two names is listed; one that leads around a circle and
one that leads to no scheme are not. -/
theorem lists_linkedSchemes :
    ∃ ss, linkedSchemes.DistinctSecuritySchemes ∧ (ofDocument linkedSchemes).value = .ok ss ∧
      Lists linkedSchemes.components.securitySchemes ss ∧
      (∃! s, s ∈ ss ∧ s.name = "store") ∧ (∀ s ∈ ss, s.name ≠ "round") ∧
      ∀ s ∈ ss, s.name ≠ "gone" := by
  have hd : linkedSchemes.DistinctSecuritySchemes := by decide
  have hrun : ((declarations linkedSchemes).mapM fun e =>
      ofDeclaration e.1 e.2).toOption.isSome = true := by decide +kernel
  obtain ⟨made, hmade⟩ := Option.isSome_iff_exists.mp hrun
  have hok := value_ofDocument linkedSchemes
  rw [eq_ok_of_toOption hmade] at hok
  have hlists := lists_ofDocument hd hok
  have hlink : ∀ target name {found}, lastSegment target = name →
      Entries.lookup? name linkedSchemes.components.securitySchemes = found →
        Entries.lookup? (lastSegment target) linkedSchemes.components.securitySchemes = found := by
    rintro target name found rfl hfound
    exact hfound
  refine ⟨_, hd, hok, hlists, ?_, ?_, ?_⟩
  · have hstore : LeadsTo linkedSchemes.components.securitySchemes _
        (.reference "#/components/securitySchemes/alias") _ :=
      .reference (hlink _ "alias" (by decide +kernel) rfl)
        (.reference (hlink _ "oauth" (by decide +kernel) rfl) (.inline _))
    exact (hlists.listed ("store", _) (by simp [linkedSchemes])).mpr ⟨_, _, hstore⟩
  · have hround : Passes linkedSchemes.components.securitySchemes _
        (.reference "other.yaml#/components/securitySchemes/about") _ :=
      .reference (hlink _ "about" (by decide +kernel) rfl)
        (.reference (hlink _ "round" (by decide +kernel) rfl) (.here _))
    exact (hlists.leftOut ("round", _) (by simp [linkedSchemes])).mpr
      (.inr ⟨[], _, _, .here _, hround, by simp⟩)
  · have hgone := hlink "#/components/securitySchemes/nothing" "nothing" (by decide +kernel) rfl
    exact (hlists.leftOut ("gone", _) (by simp [linkedSchemes])).mpr
      (.inl ⟨[], _, .here _, hgone⟩)

end SecurityScheme

end ApiResolution
