import ApiResolution.Proofs.Reference
import Mathlib.Data.List.TakeDrop

/-!
The segments of references. The name of a component is its decoded last segment
(`exists_segment_of_component?`). Decoding leaves a segment as it is exactly when no escape stands in
it (`decodeSegment_eq_self_iff`), since reading an escape makes a segment shorter.
-/

namespace ApiResolution

namespace Identifier

section

variable {α : Type} {p : α → Bool}

/-- Where there are two pieces, a separator stands behind the first one. -/
theorem exists_of_splitWhere_eq_cons_cons {as first second : List α} {pieces : List (List α)}
    (h : splitWhere p as = first :: second :: pieces) :
    ∃ b bs, as = first ++ b :: bs ∧ p b = true ∧ splitWhere p bs = second :: pieces := by
  induction as generalizing first with
  | nil => exact absurd h (by simp [splitWhere])
  | cons a as ih =>
    rw [splitWhere] at h
    split at h
    · next ha =>
      obtain ⟨rfl, hrest⟩ := List.cons.inj h
      exact ⟨a, as, rfl, ha, hrest⟩
    · split at h
      · next piece pieces' hpieces =>
        obtain ⟨rfl, rfl⟩ := List.cons.inj h
        obtain ⟨b, bs, rfl, hb, hrest⟩ := ih hpieces
        exact ⟨b, bs, rfl, hb, hrest⟩
      · exact absurd h (by simp)

/-- A single piece is the whole, and no separator stands in it. -/
theorem of_splitWhere_eq_singleton {as piece : List α} (h : splitWhere p as = [piece]) :
    as = piece ∧ ∀ a ∈ piece, p a = false := by
  induction as generalizing piece with
  | nil =>
    obtain ⟨rfl, -⟩ := List.cons.inj h
    simp
  | cons a as ih =>
    rw [splitWhere] at h
    split at h
    · exact absurd (List.cons.inj h).2 (splitWhere_ne_nil as)
    · next ha =>
      split at h
      · next piece' pieces hpieces =>
        obtain ⟨rfl, rfl⟩ := List.cons.inj h
        obtain ⟨rfl, hall⟩ := ih hpieces
        exact ⟨rfl, List.forall_mem_cons.mpr ⟨Bool.not_eq_true _ ▸ ha, hall⟩⟩
      · next hpieces => exact absurd hpieces (splitWhere_ne_nil as)

end

end Identifier

namespace Reference

/-! ## Escapes -/

/-- Reads a tilde before a digit as another character. -/
def unescapePair (digit plain : Char) : List Char → List Char
  | c :: d :: rest =>
    if c = '~' ∧ d = digit then plain :: unescapePair digit plain rest
    else c :: unescapePair digit plain (d :: rest)
  | cs => cs

theorem unescapeSlash_eq (cs : List Char) : unescapeSlash cs = unescapePair '1' '/' cs := by
  fun_induction unescapeSlash cs with
  | case1 rest ih => rw [unescapePair, if_pos ⟨rfl, rfl⟩, ih]
  | case2 c rest hno ih =>
    cases rest with
    | nil => rfl
    | cons d rest =>
      rw [unescapePair, if_neg, ih]
      rintro ⟨rfl, rfl⟩
      exact hno rest rfl rfl
  | case3 => rfl

theorem unescapeTilde_eq (cs : List Char) : unescapeTilde cs = unescapePair '0' '~' cs := by
  fun_induction unescapeTilde cs with
  | case1 rest ih => rw [unescapePair, if_pos ⟨rfl, rfl⟩, ih]
  | case2 c rest hno ih =>
    cases rest with
    | nil => rfl
    | cons d rest =>
      rw [unescapePair, if_neg, ih]
      rintro ⟨rfl, rfl⟩
      exact hno rest rfl rfl
  | case3 => rfl

section

variable {digit plain : Char} {cs : List Char}

theorem length_unescapePair_le (digit plain : Char) (cs : List Char) :
    (unescapePair digit plain cs).length ≤ cs.length := by
  fun_induction unescapePair digit plain cs with
  | case1 c d rest h ih => simp only [List.length_cons]; omega
  | case2 c d rest h ih => simp only [List.length_cons] at ih ⊢; omega
  | case3 cs h => exact Nat.le_refl _

/-- Reading a pair makes a text shorter. -/
theorem length_unescapePair_lt (plain : Char) (h : ['~', digit] <:+: cs) :
    (unescapePair digit plain cs).length < cs.length := by
  fun_induction unescapePair digit plain cs with
  | case1 c d rest hpair ih =>
    have hle := length_unescapePair_le digit plain rest
    simp only [List.length_cons]
    omega
  | case2 c d rest hpair ih =>
    have hrest : ['~', digit] <:+: d :: rest := by
      rcases List.infix_cons_iff.mp h with ⟨after, hprefix⟩ | hrest
      · obtain ⟨hc, htail⟩ := List.cons.inj hprefix
        exact absurd ⟨hc.symm, (List.cons.inj htail).1.symm⟩ hpair
      · exact hrest
    have hlt := ih hrest
    simp only [List.length_cons] at hlt ⊢
    omega
  | case3 cs hshort =>
    have hlen := h.length_le
    match cs, hshort with
    | [], _ => exact absurd hlen (by simp)
    | [c], _ => exact absurd hlen (by simp)
    | c :: d :: rest, hshort => exact absurd rfl (hshort c d rest)

theorem unescapePair_eq_self (h : ¬ ['~', digit] <:+: cs) : unescapePair digit plain cs = cs := by
  fun_induction unescapePair digit plain cs with
  | case1 c d rest hpair ih =>
    obtain ⟨rfl, rfl⟩ := hpair
    exact absurd ⟨[], rest, rfl⟩ h
  | case2 c d rest hpair ih =>
    rw [ih]
    intro hrest
    exact h (List.infix_cons_iff.mpr (.inr hrest))
  | case3 cs hshort => rfl

end

/-- A pointer escape or a percent-encoded byte stands in a text. -/
def HoldsEscape (cs : List Char) : Prop :=
  ['~', '0'] <:+: cs ∨ ['~', '1'] <:+: cs ∨ Text.HoldsPercentByte cs

/-- Decoding leaves a segment as it is exactly when no escape stands in it. -/
theorem decodeSegment_eq_self_iff {cs : List Char} :
    decodeSegment cs = cs ↔ ¬ HoldsEscape cs := by
  unfold decodeSegment HoldsEscape
  rw [unescapeSlash_eq, unescapeTilde_eq]
  -- Each of the three steps only makes the text shorter, so none of them may change it.
  by_cases hslash : ['~', '1'] <:+: cs
  · have hlt := length_unescapePair_lt '/' hslash
    have hle := length_unescapePair_le '0' '~' (unescapePair '1' '/' cs)
    have hdecoded := Text.length_percentDecodeFrom_le []
      (unescapePair '0' '~' (unescapePair '1' '/' cs))
    constructor
    · intro h
      have hlen := congrArg List.length h
      simp only [Text.percentDecode, List.length_nil] at hlen hdecoded
      omega
    · intro h
      exact absurd (.inr (.inl hslash)) h
  · rw [unescapePair_eq_self hslash]
    by_cases htilde : ['~', '0'] <:+: cs
    · have hlt := length_unescapePair_lt '~' htilde
      have hdecoded := Text.length_percentDecodeFrom_le [] (unescapePair '0' '~' cs)
      constructor
      · intro h
        have hlen := congrArg List.length h
        simp only [Text.percentDecode, List.length_nil] at hlen hdecoded
        omega
      · intro h
        exact absurd (.inl htilde) h
    · rw [unescapePair_eq_self htilde, Text.percentDecode_eq_self_iff, ← Bool.not_eq_true,
        Text.hasPercentByte_iff]
      simp [hslash, htilde]

/-! ## The segment of a name -/

/-- The fragment of a reference stands behind a number sign. -/
theorem exists_of_split {target fragment : String} (h : (split target).2 = some fragment) :
    ∃ front, target.toList = front ++ '#' :: fragment.toList := by
  unfold split at h
  rw [List.span_eq_takeWhile_dropWhile] at h
  dsimp only at h
  split at h
  · next c rest hrest =>
    have hmark := List.head?_dropWhile_not (· != '#') target.toList
    rw [hrest] at hmark
    obtain rfl : c = '#' := by simpa using hmark
    refine ⟨target.toList.takeWhile (· != '#'), ?_⟩
    rw [← Option.some.inj h, String.toList_ofList, ← hrest, List.takeWhile_append_dropWhile]
  · exact absurd h (by simp)

theorem suffix_of_localPointer? {target pointer : String} {self : Option String}
    (h : localPointer? target self = some pointer) : pointer.toList <:+ target.toList := by
  have hpointer : ∃ fragment, (split target).2 = some fragment ∧ pointer = "#" ++ fragment := by
    unfold localPointer? at h
    dsimp only at h
    split at h
    · exact absurd h (by simp)
    · next fragment hfragment =>
      refine ⟨fragment, hfragment, ?_⟩
      split at h
      · exact (Option.some.inj h).symm
      · split at h
        · exact (Option.some.inj (Option.ite_none_right_eq_some.mp h).2).symm
        · exact absurd h (by simp)
  obtain ⟨fragment, hfragment, rfl⟩ := hpointer
  obtain ⟨front, hfront⟩ := exists_of_split hfragment
  refine ⟨front, ?_⟩
  rw [hfront, String.toList_append]
  rfl

/-- The name of a component is the decoded segment behind the last slash. -/
theorem exists_segment_of_component? {target sectionName name : String} {self : Option String}
    (h : component? target self = some (sectionName, name)) :
    ∃ before segment, target.toList = before ++ '/' :: segment ∧
      (∀ c ∈ segment, (c == '/') = false) ∧ name.toList = decodeSegment segment := by
  unfold component? at h
  split at h
  · exact absurd h (by simp)
  · next pointer hpointer =>
    obtain ⟨front, hfront⟩ := ((List.dropWhile_suffix (· == '/')).trans
      (List.dropWhile_suffix (· == '#'))).trans (suffix_of_localPointer? hpointer)
    dsimp only at h
    split at h
    · next root section' segment hpieces =>
      obtain ⟨b, bs, hbody, -, hrest⟩ := Identifier.exists_of_splitWhere_eq_cons_cons hpieces
      obtain ⟨b', bs', rfl, hb', hrest⟩ := Identifier.exists_of_splitWhere_eq_cons_cons hrest
      obtain ⟨rfl, hall⟩ := Identifier.of_splitWhere_eq_singleton hrest
      obtain rfl : b' = '/' := by simpa using hb'
      refine ⟨front ++ root ++ b :: section', bs', ?_, hall, ?_⟩
      · rw [← hfront, hbody]
        simp
      · split at h
        · split at h
          · exact absurd h (by simp)
          · obtain ⟨-, rfl⟩ := Prod.mk.inj (Option.some.inj h)
            rw [String.toList_ofList]
        · exact absurd h (by simp)
    · exact absurd h (by simp)

end Reference
end ApiResolution
