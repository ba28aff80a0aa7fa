import ApiResolution.Context
import Mathlib.Tactic.Ring

/-!
Following references to components. There are four sections of components that operations refer to.
`LeadsTo` says that references lead from a part over so many links to another part of its section;
the walk of a context finds the part written in place that fewer than `maxHops` links lead to
(`value_component?_eq_some_iff`). All that it notes is a missing component, and only one that fewer
than `maxHops` links lead to (`mem_notes_component?_iff`). A circle leads to neither
(`LeadsTo.exists_link`), so what is on it is never found and never noted.
-/

namespace ApiResolution

/-- The sections of components that operations refer to. -/
inductive ComponentSection where
  | parameters
  | requestBodies
  | responses
  | headers
deriving DecidableEq, Repr

namespace ComponentSection

/-- The word of a section. -/
def keyword : ComponentSection → String
  | parameters => "parameters"
  | requestBodies => "requestBodies"
  | responses => "responses"
  | headers => "headers"

/-- What a section holds. -/
def Object : ComponentSection → Type
  | parameters => ParameterObject
  | requestBodies => RequestBodyObject
  | responses => ResponseObject
  | headers => HeaderObject

/-- The report of a component that is missing from a section. -/
def missing (s : ComponentSection) (target : String) : Diagnostic :=
  ⟨.unresolvedReference, target, "Component '" ++ target ++ "' is not defined in " ++ s.keyword⟩

theorem keyword_injective {s s' : ComponentSection} (h : s.keyword = s'.keyword) : s = s' := by
  cases s <;> cases s' <;> first | rfl | exact absurd h (by decide)

/-- A report tells the section and the reference. -/
theorem missing_injective {s s' : ComponentSection} {target target' : String}
    (h : s.missing target = s'.missing target') : s = s' ∧ target = target' := by
  obtain ⟨-, rfl, hmessage⟩ := Diagnostic.mk.inj h
  exact ⟨keyword_injective (String.append_right_inj _ |>.mp hmessage), rfl⟩

end ComponentSection

namespace Context

variable (c : Context)

/-- The components of a section. -/
def components : (s : ComponentSection) → Entries (OrReference s.Object)
  | .parameters => c.document.components.parameters
  | .requestBodies => c.document.components.requestBodies
  | .responses => c.document.components.responses
  | .headers => c.document.components.headers

/-- The component of a section that a reference points to. -/
def target? (s : ComponentSection) (target : String) : Option (OrReference s.Object) :=
  (Reference.componentName? target c.self s.keyword).bind
    fun name => Entries.lookup? name (c.components s)

/-- A part, followed through references. -/
def component? (s : ComponentSection) : OrReference s.Object → Noted (Option s.Object) :=
  c.componentFrom? s.keyword (c.components s) maxHops

/-- References lead from a part over so many links to another one. -/
inductive LeadsTo (s : ComponentSection) :
    Nat → OrReference s.Object → OrReference s.Object → Prop
  | here (part : OrReference s.Object) : LeadsTo s 0 part part
  | next {links : Nat} {target : String} {between part : OrReference s.Object}
      (link : c.target? s target = some between) (rest : LeadsTo s links between part) :
      LeadsTo s (links + 1) (.reference target) part

/-- References lead from a part to a reference to a component that is missing. -/
def LeadsNowhere (s : ComponentSection) (links : Nat) (part : OrReference s.Object)
    (target : String) : Prop :=
  c.LeadsTo s links part (.reference target) ∧ c.target? s target = none

variable {c} {s : ComponentSection} {part : OrReference s.Object}

theorem leadsTo_zero_iff {last : OrReference s.Object} : c.LeadsTo s 0 part last ↔ part = last := by
  constructor
  · rintro ⟨⟩
    rfl
  · rintro rfl
    exact .here part

theorem leadsTo_succ_iff {links : Nat} {target : String} {last : OrReference s.Object} :
    c.LeadsTo s (links + 1) (.reference target) last ↔
      ∃ between, c.target? s target = some between ∧ c.LeadsTo s links between last := by
  constructor
  · rintro (_ | ⟨link, rest⟩)
    exact ⟨_, link, rest⟩
  · rintro ⟨between, link, rest⟩
    exact .next link rest

/-- A part that is written in place leads nowhere else. -/
theorem not_leadsTo_succ_inline {links : Nat} {value : s.Object} {last : OrReference s.Object} :
    ¬ c.LeadsTo s (links + 1) (.inline value) last := by
  rintro ⟨⟩

/-! ## The bounded walk -/

theorem componentFrom?_reference (hops : Nat) (target : String) :
    c.componentFrom? s.keyword (c.components s) (hops + 1) (.reference target) =
      match c.target? s target with
      | some next => c.componentFrom? s.keyword (c.components s) hops next
      | none => ⟨none, [.diagnostic (s.missing target)]⟩ := by
  rw [componentFrom?]
  cases hnext : c.target? s target with
  | none =>
    rw [target?] at hnext
    rw [hnext]
    rfl
  | some next =>
    rw [target?] at hnext
    rw [hnext]

theorem value_componentFrom?_eq_some_iff {hops : Nat} {value : s.Object} :
    (c.componentFrom? s.keyword (c.components s) hops part).value = some value ↔
      ∃ links < hops, c.LeadsTo s links part (.inline value) := by
  induction hops generalizing part with
  | zero => simp [componentFrom?]
  | succ hops ih =>
    rw [Nat.exists_lt_succ_left, leadsTo_zero_iff]
    cases part with
    | inline declared => simp [componentFrom?, not_leadsTo_succ_inline]
    | reference target =>
      simp only [componentFrom?_reference, leadsTo_succ_iff, reduceCtorEq, false_or]
      cases c.target? s target with
      | none => simp
      | some next =>
        rw [ih]
        simp only [Option.some.injEq, exists_eq_left']

theorem mem_notes_componentFrom?_iff {hops : Nat} {note : Note} :
    note ∈ (c.componentFrom? s.keyword (c.components s) hops part).notes ↔
      ∃ links < hops, ∃ target, c.LeadsNowhere s links part target ∧
        note = .diagnostic (s.missing target) := by
  induction hops generalizing part with
  | zero => simp [componentFrom?]
  | succ hops ih =>
    rw [Nat.exists_lt_succ_left]
    simp only [LeadsNowhere, leadsTo_zero_iff]
    cases part with
    | inline declared => simp [componentFrom?, not_leadsTo_succ_inline]
    | reference target =>
      simp only [componentFrom?_reference, leadsTo_succ_iff, OrReference.reference.injEq]
      cases hnext : c.target? s target with
      | none =>
        simp only [List.mem_singleton, reduceCtorEq, false_and, exists_false, and_false, or_false,
          and_assoc, exists_eq_left', hnext, true_and]
      | some next =>
        simp only [Option.some.injEq, exists_eq_left', and_assoc, hnext, reduceCtorEq, false_and,
          false_or]
        rw [ih]
        simp only [LeadsNowhere, and_assoc]

/-- The walk finds the part written in place that fewer than `maxHops` links lead to. -/
theorem value_component?_eq_some_iff {value : s.Object} :
    (c.component? s part).value = some value ↔
      ∃ links < maxHops, c.LeadsTo s links part (.inline value) :=
  value_componentFrom?_eq_some_iff

/-- The walk notes a missing component that fewer than `maxHops` links lead to, and nothing else. -/
theorem mem_notes_component?_iff {note : Note} :
    note ∈ (c.component? s part).notes ↔
      ∃ links < maxHops, ∃ target, c.LeadsNowhere s links part target ∧
        note = .diagnostic (s.missing target) :=
  mem_notes_componentFrom?_iff

/-! ## Circles -/

namespace LeadsTo

variable {links more : Nat} {last last' : OrReference s.Object}

/-- A number of links leads from a part to one part. -/
theorem unique (h : c.LeadsTo s links part last) (h' : c.LeadsTo s links part last') :
    last = last' := by
  induction h with
  | here part => exact leadsTo_zero_iff.mp h'
  | next link rest ih =>
    obtain ⟨between, link', rest'⟩ := leadsTo_succ_iff.mp h'
    obtain rfl := Option.some.inj (link.symm.trans link')
    exact ih rest'

theorem trans (h : c.LeadsTo s links part last) (h' : c.LeadsTo s more last last') :
    c.LeadsTo s (links + more) part last' := by
  induction h with
  | here part => rwa [Nat.zero_add]
  | next link rest ih =>
    rw [Nat.add_right_comm]
    exact .next link (ih h')

/-- Over more links a part leads on from where fewer links lead. -/
theorem exists_of_add (h : c.LeadsTo s (links + more) part last) :
    ∃ between, c.LeadsTo s links part between ∧ c.LeadsTo s more between last := by
  induction links generalizing part with
  | zero => exact ⟨part, .here part, by rwa [Nat.zero_add] at h⟩
  | succ links ih =>
    rw [Nat.add_right_comm] at h
    cases h with
    | next link rest =>
      obtain ⟨between, hbefore, hafter⟩ := ih rest
      exact ⟨between, .next link hbefore, hafter⟩

/-- A part on a circle leads back to itself over as many rounds as there are. -/
theorem rounds (h : c.LeadsTo s links part part) (n : Nat) :
    c.LeadsTo s (n * links) part part := by
  induction n with
  | zero =>
    rw [Nat.zero_mul]
    exact .here part
  | succ n ih =>
    rw [Nat.succ_mul]
    exact ih.trans h

/-- All that a circle leads to are references with a link. -/
theorem exists_link {around : Nat} (h : c.LeadsTo s (around + 1) part part)
    (hlast : c.LeadsTo s links part last) :
    ∃ target next, last = .reference target ∧ c.target? s target = some next := by
  -- So many rounds pass the last part, which has a link then.
  have hrounds : c.LeadsTo s (links + (around * (links + 1) + 1)) part part := by
    have hrounds := h.rounds (links + 1)
    rwa [show (links + 1) * (around + 1) = links + (around * (links + 1) + 1) by ring] at hrounds
  obtain ⟨between, hbetween, hback⟩ := hrounds.exists_of_add
  obtain rfl := hlast.unique hbetween
  cases hback with
  | next link rest => exact ⟨_, _, rfl, link⟩

end LeadsTo

/-- A circle of references leads to no missing component. -/
theorem not_leadsNowhere_of_circle {around : Nat} (h : c.LeadsTo s (around + 1) part part)
    (links : Nat) (target : String) : ¬ c.LeadsNowhere s links part target := by
  rintro ⟨hlast, hmissing⟩
  obtain ⟨_, next, ⟨⟩, hnext⟩ := h.exists_link hlast
  exact absurd (hmissing.symm.trans hnext) (by simp)

/-- The walk finds nothing from a part on a circle of references. -/
theorem value_component?_of_circle {around : Nat} (h : c.LeadsTo s (around + 1) part part) :
    (c.component? s part).value = none := by
  refine Option.eq_none_iff_forall_ne_some.mpr fun value hvalue => ?_
  obtain ⟨links, -, hlast⟩ := value_component?_eq_some_iff.mp hvalue
  obtain ⟨_, _, hreference, -⟩ := h.exists_link hlast
  exact absurd hreference (by simp)

end Context
end ApiResolution
