import ApiResolution.Property.Enum
import Mathlib.Data.List.DropRight
import Mathlib.Data.List.Infix

/-!
The stem of the values of an enum. What begins all texts of a list begins their common prefix
(`prefix_foldl_commonPrefix_iff`), and dropping the word at the end of a prefix leaves the longest
beginning of it that ends outside a word (`prefix_dropWord`). So the stem is the longest text that
begins all values and does not break off in a word, and the members are named by the rest of their
values where there is one (`longest_stem`).
-/

namespace ApiResolution
namespace EnumValues

/-- The characters are none or end in one that is neither an ASCII letter nor a digit. -/
def EndsOutsideWord (cs : List Char) : Prop := ∀ c ∈ cs.getLast?, c.isAlphanum = false

/-- The characters begin all texts and do not break off in a word. -/
structure BeginsAll (texts : List String) (cs : List Char) : Prop where
  isPrefix : ∀ t ∈ texts, cs <+: t.toList
  whole : EndsOutsideWord cs

theorem endsOutsideWord_append {cs ds : List Char} (hne : ds ≠ []) :
    EndsOutsideWord (cs ++ ds) ↔ EndsOutsideWord ds := by
  rw [EndsOutsideWord, EndsOutsideWord, List.getLast?_append_of_ne_nil cs hne]

/-! ## The common prefix -/

theorem commonPrefix_nil_right (as : List Char) : commonPrefix as [] = [] := by
  cases as <;> rfl

/-- What begins both texts begins their common prefix. -/
theorem prefix_commonPrefix_iff {cs as bs : List Char} :
    cs <+: commonPrefix as bs ↔ cs <+: as ∧ cs <+: bs := by
  induction as generalizing cs bs with
  | nil =>
    change cs <+: [] ↔ _
    rw [List.prefix_nil]
    exact ⟨fun h => ⟨h, h ▸ List.nil_prefix⟩, And.left⟩
  | cons a as ih =>
    cases bs with
    | nil =>
      rw [commonPrefix_nil_right, List.prefix_nil]
      exact ⟨fun h => ⟨h ▸ List.nil_prefix, h⟩, And.right⟩
    | cons b bs =>
      cases cs with
      | nil => simp
      | cons c cs =>
        rw [commonPrefix, List.cons_prefix_cons, List.cons_prefix_cons]
        split
        · next hab =>
          rw [List.cons_prefix_cons, ih, hab]
          exact and_and_left
        · next hab =>
          rw [List.prefix_nil]
          constructor
          · exact fun h => absurd h (List.cons_ne_nil c cs)
          · rintro ⟨⟨rfl, -⟩, rfl, -⟩
            exact absurd rfl hab

theorem prefix_foldl_commonPrefix_iff {cs as : List Char} {texts : List String} :
    cs <+: texts.foldl (fun acc s => commonPrefix acc s.toList) as ↔
      cs <+: as ∧ ∀ t ∈ texts, cs <+: t.toList := by
  induction texts generalizing as with
  | nil => simp
  | cons t texts ih =>
    rw [List.foldl_cons, ih, prefix_commonPrefix_iff, List.forall_mem_cons, and_assoc]

/-! ## The word at the end -/

theorem dropWord_eq (cs : List Char) : dropWord cs = cs.rdropWhile Char.isAlphanum := rfl

theorem endsOutsideWord_dropWord (cs : List Char) : EndsOutsideWord (dropWord cs) := by
  intro c hc
  obtain ⟨hne, rfl⟩ := List.mem_getLast?_eq_getLast hc
  exact Bool.eq_false_iff.mpr (List.rdropWhile_last_not Char.isAlphanum cs hne)

/-- A beginning that ends outside a word goes no further than to the word at the end. -/
theorem prefix_dropWord {cs ds : List Char} (hbegin : ds <+: cs) (hwhole : EndsOutsideWord ds) :
    ds <+: dropWord cs := by
  have hkept : dropWord cs <+: cs := List.rdropWhile_prefix _ _
  rcases List.prefix_or_prefix_of_prefix hbegin hkept with h | ⟨word, rfl⟩
  · exact h
  · -- What goes beyond the kept part begins the dropped word, so it would end inside a word.
    have hword : word <+: cs.rtakeWhile Char.isAlphanum := by
      rw [← List.prefix_append_right_inj (dropWord cs), dropWord_eq,
        List.rdropWhile_append_rtakeWhile]
      exact hbegin
    by_cases hne : word = []
    · rw [hne, List.append_nil]
    · have hlast : word.getLast hne ∈ cs.rtakeWhile Char.isAlphanum :=
        hword.subset (List.getLast_mem hne)
      rw [endsOutsideWord_append hne] at hwhole
      have hout := hwhole _ (List.getLast?_eq_some_getLast hne)
      rw [List.mem_rtakeWhile_imp hlast] at hout
      exact absurd hout (by simp)

/-! ## The stem -/

theorem mapM_string? (texts : List String) :
    (texts.map Json.string).mapM Json.string? = some texts := by
  induction texts with
  | nil => rfl
  | cons t texts ih =>
    rw [List.map_cons, List.mapM_cons, ih]
    rfl

theorem mapM_string?_eq_none {values : List Json} {value : Json} (hvalue : value ∈ values)
    (hnone : value.string? = none) : values.mapM Json.string? = none := by
  induction values with
  | nil => simp at hvalue
  | cons first values ih =>
    rw [List.mapM_cons]
    rcases List.mem_cons.mp hvalue with rfl | hvalue
    · rw [hnone]
      rfl
    · rw [ih hvalue]
      cases first.string? <;> rfl

theorem stem_strings (first second : String) (rest : List String) :
    stem ((first :: second :: rest).map .string) =
      dropWord ((second :: rest).foldl (fun acc s => commonPrefix acc s.toList) first.toList) := by
  rw [stem, mapM_string?]

/-- Fewer than two values, or values that are not all texts, have no stem. -/
theorem stem_eq_nil {values : List Json}
    (h : values.length < 2 ∨ ∃ value ∈ values, value.string? = none) : stem values = [] := by
  rcases h with h | ⟨value, hvalue, hnone⟩
  · match values, h with
    | [], _ => rfl
    | [value], _ => cases value <;> rfl
  · rw [stem, mapM_string?_eq_none hvalue hnone]

theorem displayName_string {shared : List Char} {t : String} {rest : List Char}
    (h : t.toList = shared ++ rest) :
    displayName shared (.string t) = if rest = [] then t else String.ofList rest := by
  have hrest : t.toList.drop shared.length = rest := by rw [h, List.drop_left]
  change (if (shared.isEmpty || (t.toList.drop shared.length).isEmpty) = true then t
    else String.ofList (t.toList.drop shared.length)) = _
  rw [hrest]
  by_cases hempty : rest = []
  · simp [hempty]
  · cases shared with
    | nil =>
      have ht : String.ofList rest = t := by
        rw [← List.nil_append rest, ← h, String.ofList_toList]
      simp [hempty, ht]
    | cons c shared => simp [hempty]

/-- The stem of two or more texts begins all of them, and it is the longest that does. -/
theorem beginsAll_stem {texts : List String} (hlen : 2 ≤ texts.length) :
    BeginsAll texts (stem (texts.map .string)) ∧
      ∀ cs, BeginsAll texts cs → cs <+: stem (texts.map .string) := by
  match texts, hlen with
  | first :: second :: rest, _ =>
    have hcommon : ∀ cs : List Char, (∀ t ∈ first :: second :: rest, cs <+: t.toList) ↔
        cs <+: (second :: rest).foldl (fun acc s => commonPrefix acc s.toList) first.toList := by
      intro cs
      rw [prefix_foldl_commonPrefix_iff, List.forall_mem_cons]
    rw [stem_strings]
    exact ⟨⟨(hcommon _).mpr (List.rdropWhile_prefix _ _), endsOutsideWord_dropWord _⟩,
      fun cs hcs => prefix_dropWord ((hcommon cs).mp hcs.isPrefix) hcs.whole⟩

/-- What is displayed of a text that a stem begins. -/
theorem exists_displayName_eq {shared : List Char} {t : String} (h : shared <+: t.toList) :
    ∃ rest, t = String.ofList shared ++ rest ∧ (String.ofList shared).rawEndPos.IsValid t ∧
      displayName shared (.string t) = if rest = "" then t else rest := by
  obtain ⟨tail, htail⟩ := h
  have hsplit : t = String.ofList shared ++ String.ofList tail := by
    rw [← String.ofList_append, htail, String.ofList_toList]
  refine ⟨String.ofList tail, hsplit,
    String.Pos.Raw.isValid_iff_exists_append.mpr ⟨_, _, hsplit, rfl⟩, ?_⟩
  rw [displayName_string htail.symm]
  by_cases hempty : tail = []
  · simp [hempty]
  · have hne : String.ofList tail ≠ "" := by simpa using hempty
    rw [if_neg hempty, if_neg hne]

/-- The stem of two or more texts begins each of them at a boundary of its characters, does not break
off in a word, and is the longest that does so. A value is displayed as what follows the stem, or as
a whole if nothing follows. Any other list of values has no stem. -/
theorem longest_stem (values : List Json) :
    (∀ texts : List String, values = texts.map .string → 2 ≤ texts.length →
      BeginsAll texts (stem values) ∧ (∀ cs, BeginsAll texts cs → cs <+: stem values) ∧
        ∀ t ∈ texts, ∃ rest, t = String.ofList (stem values) ++ rest ∧
          (String.ofList (stem values)).rawEndPos.IsValid t ∧
          displayName (stem values) (.string t) = if rest = "" then t else rest) ∧
      (values.length < 2 ∨ (∃ value ∈ values, ∀ t, value ≠ .string t) → stem values = []) := by
  constructor
  · rintro texts rfl hlen
    obtain ⟨hbegins, hlongest⟩ := beginsAll_stem hlen
    exact ⟨hbegins, hlongest, fun t ht => exists_displayName_eq (hbegins.isPrefix t ht)⟩
  · rintro (h | ⟨value, hvalue, hother⟩)
    · exact stem_eq_nil (.inl h)
    · refine stem_eq_nil (.inr ⟨value, hvalue, ?_⟩)
      cases value with
      | string t => exact absurd rfl (hother t)
      | _ => rfl

/-- The texts share the first byte of their last characters too, but no character of it. -/
example : stem (["größe-é", "größe-è"].map .string) = "größe-".toList := by decide +kernel

end EnumValues
end ApiResolution
