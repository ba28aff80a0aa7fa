import ApiResolution.Proofs.Text.Percent
import ApiResolution.Reference

/-!
References that are written to schemas. `ofSchemaName` writes a reference that is read back as the
name exactly when the name has no percent sign before two hexadecimal digits
(`displayName_ofSchemaName_eq_iff`): such a sign is written as it is and decoded on reading. The name
is empty for an empty text only (`displayName_eq_empty_iff`).
-/

namespace ApiResolution

namespace Identifier

section

variable {α : Type} {p : α → Bool}

theorem splitWhere_of_all_not {as : List α} (h : ∀ a ∈ as, p a = false) :
    splitWhere p as = [as] := by
  induction as with
  | nil => rfl
  | cons a as ih =>
    rw [splitWhere, if_neg (by simp [h a List.mem_cons_self]),
      ih fun b hb => h b (List.mem_cons_of_mem _ hb)]

theorem splitWhere_ne_nil (as : List α) : splitWhere p as ≠ [] := by
  cases as with
  | nil => simp [splitWhere]
  | cons a as =>
    rw [splitWhere]
    split
    · simp
    · split <;> simp

/-- The pieces on both sides of a separator are the pieces of the whole. -/
theorem splitWhere_append_separator {b : α} (hb : p b = true) (as bs : List α) :
    splitWhere p (as ++ b :: bs) = splitWhere p as ++ splitWhere p bs := by
  induction as with
  | nil => simp [splitWhere, hb]
  | cons a as ih =>
    rw [List.cons_append, splitWhere, splitWhere]
    by_cases ha : p a = true
    · rw [if_pos ha, if_pos ha, ih, List.cons_append]
    · rw [if_neg ha, if_neg ha, ih]
      cases hpieces : splitWhere p as with
      | nil => exact absurd hpieces (splitWhere_ne_nil as)
      | cons piece pieces => rfl

theorem splitWhere_append_cons {as : List α} (h : ∀ a ∈ as, p a = false) {b : α}
    (hb : p b = true) (rest : List α) :
    splitWhere p (as ++ b :: rest) = as :: splitWhere p rest := by
  rw [splitWhere_append_separator hb, splitWhere_of_all_not h, List.singleton_append]

end

end Identifier

namespace Reference

/-! ## Empty names -/

theorem name_ne_empty_of_component? {target sectionName name : String} {self : Option String}
    (h : component? target self = some (sectionName, name)) : name ≠ "" := by
  unfold component? at h
  split at h
  · exact absurd h (by simp)
  · dsimp only at h
    split at h
    · obtain ⟨-, h⟩ := Option.ite_none_right_eq_some.mp h
      obtain ⟨hempty, h⟩ := Option.ite_none_left_eq_some.mp h
      obtain ⟨-, rfl⟩ := Prod.mk.inj (Option.some.inj h)
      rw [ne_eq, ← String.toList_eq_nil_iff, String.toList_ofList]
      exact fun hnil => hempty (List.isEmpty_iff.mpr hnil)
    · exact absurd h (by simp)

theorem component?_empty (self : Option String) : component? "" self = none := by
  have hsplit : split "" = ("", none) := by decide +kernel
  unfold component? localPointer?
  rw [hsplit]

/-- Only the empty text stands for the empty name. -/
theorem displayName_eq_empty_iff (target : String) (self : Option String) :
    displayName target self = "" ↔ target = "" := by
  unfold displayName
  split
  · next sectionName name hcomponent =>
    refine iff_of_false (name_ne_empty_of_component? hcomponent) ?_
    rintro rfl
    exact absurd hcomponent (by simp [component?_empty])
  · exact Iff.rfl

/-! ## Segments -/

theorem unescapeSlash_cons {c : Char} (h : c ≠ '~') (cs : List Char) :
    unescapeSlash (c :: cs) = c :: unescapeSlash cs := by
  rw [unescapeSlash]
  intro rest hc
  exact absurd hc h

theorem unescapeTilde_cons {c : Char} (h : c ≠ '~') (cs : List Char) :
    unescapeTilde (c :: cs) = c :: unescapeTilde cs := by
  rw [unescapeTilde]
  intro rest hc
  exact absurd hc h

theorem encodeSegment_cons (c : Char) (cs : List Char) :
    encodeSegment (c :: cs) =
      (if c = '~' then ['~', '0'] else if c = '/' then ['~', '1'] else [c]) ++
        encodeSegment cs := by
  have happend : ∀ before after, replaceChar '/' ['~', '1'] (before ++ after) =
      replaceChar '/' ['~', '1'] before ++ replaceChar '/' ['~', '1'] after :=
    fun before after => List.flatMap_append
  have htilde : replaceChar '~' ['~', '0'] (c :: cs) =
      (if c = '~' then ['~', '0'] else [c]) ++ replaceChar '~' ['~', '0'] cs := rfl
  unfold encodeSegment
  rw [htilde, happend]
  -- The second replacement finds no slash in what the first one wrote.
  split
  · rfl
  · rw [replaceChar, List.flatMap_cons, List.flatMap_nil, List.append_nil]

/-- Reading the pointer escapes undoes writing them. -/
theorem unescape_encodeSegment (cs : List Char) :
    unescapeTilde (unescapeSlash (encodeSegment cs)) = cs := by
  induction cs with
  | nil => rfl
  | cons c cs ih =>
    rw [encodeSegment_cons]
    by_cases htilde : c = '~'
    · subst htilde
      have h0 : unescapeSlash ('~' :: '0' :: encodeSegment cs) =
          '~' :: '0' :: unescapeSlash (encodeSegment cs) := by
        rw [unescapeSlash, unescapeSlash_cons (by decide)]
        rintro rest - ⟨⟩
      rw [if_pos rfl, List.cons_append, List.singleton_append, h0, unescapeTilde, ih]
    · by_cases hslash : c = '/'
      · subst hslash
        rw [if_neg htilde, if_pos rfl, List.cons_append, List.singleton_append, unescapeSlash,
          unescapeTilde_cons htilde, ih]
      · rw [if_neg htilde, if_neg hslash, List.singleton_append, unescapeSlash_cons htilde,
          unescapeTilde_cons htilde, ih]

theorem slash_not_mem_encodeSegment (cs : List Char) :
    ∀ c ∈ encodeSegment cs, (c == '/') = false := by
  induction cs with
  | nil => exact fun c hc => absurd hc List.not_mem_nil
  | cons c cs ih =>
    rw [encodeSegment_cons]
    intro d hd
    rcases List.mem_append.mp hd with hd | hd
    · split at hd
      · simp only [List.mem_cons, List.not_mem_nil, or_false] at hd
        rcases hd with rfl | rfl <;> rfl
      · split at hd
        · simp only [List.mem_cons, List.not_mem_nil, or_false] at hd
          rcases hd with rfl | rfl <;> rfl
        · next hslash =>
          rw [List.mem_singleton.mp hd]
          simpa using hslash
    · exact ih d hd

/-! ## References to schemas -/

theorem toList_ofSchemaName (name : String) :
    (ofSchemaName name).toList = '#' :: '/' ::
      ("components".toList ++ '/' :: ("schemas".toList ++ '/' :: encodeSegment name.toList)) := by
  have hprefix : "#/components/schemas/".toList =
      '#' :: '/' :: ("components".toList ++ '/' :: ("schemas".toList ++ ['/'])) := by
    decide +kernel
  unfold ofSchemaName
  simp only [String.toList_append, String.toList_ofList, hprefix, List.cons_append,
    List.append_assoc, List.nil_append]

theorem localPointer?_ofSchemaName (name : String) (self : Option String) :
    localPointer? (ofSchemaName name) self = some (ofSchemaName name) := by
  generalize hrest : '/' :: ("components".toList ++ '/' ::
    ("schemas".toList ++ '/' :: encodeSegment name.toList)) = rest
  have hlist : (ofSchemaName name).toList = '#' :: rest := by rw [toList_ofSchemaName, hrest]
  have hsplit : split (ofSchemaName name) = ("", some (String.ofList rest)) := by
    have hspan : ('#' :: rest).span (· != '#') = ([], '#' :: rest) := rfl
    unfold split
    rw [hlist, hspan]
  have hempty : "".isEmpty = true := rfl
  have hname : "#" ++ String.ofList rest = ofSchemaName name := by
    have happend : String.ofList (['#'] ++ rest) = "#" ++ String.ofList rest :=
      String.ofList_append
    rw [← happend, List.singleton_append, ← hlist, String.ofList_toList]
  unfold localPointer?
  rw [hsplit]
  dsimp only
  rw [if_pos hempty, hname]

theorem pieces_ofSchemaName (name : String) :
    Identifier.splitWhere (· == '/')
      (((ofSchemaName name).toList.dropWhile (· == '#')).dropWhile (· == '/')) =
        ["components".toList, "schemas".toList, encodeSegment name.toList] := by
  have hroot : ∀ c ∈ "components".toList, (c == '/') = false := by simp
  have hsection : ∀ c ∈ "schemas".toList, (c == '/') = false := by simp
  have hbody : ((ofSchemaName name).toList.dropWhile (· == '#')).dropWhile (· == '/') =
      "components".toList ++ '/' :: ("schemas".toList ++ '/' :: encodeSegment name.toList) := by
    have hhead : "components".toList = 'c' :: "omponents".toList := by decide +kernel
    rw [toList_ofSchemaName, hhead]
    rfl
  rw [hbody, Identifier.splitWhere_append_cons hroot rfl,
    Identifier.splitWhere_append_cons hsection rfl,
    Identifier.splitWhere_of_all_not (slash_not_mem_encodeSegment _)]

/-- The component that a written reference points to is the decoded name, unless that is empty. -/
theorem component?_ofSchemaName (name : String) (self : Option String) :
    component? (ofSchemaName name) self =
      if (Text.percentDecode name.toList).isEmpty then none
      else some ("schemas", String.ofList (Text.percentDecode name.toList)) := by
  unfold component?
  rw [localPointer?_ofSchemaName]
  dsimp only
  rw [pieces_ofSchemaName]
  dsimp only
  rw [String.ofList_toList, String.ofList_toList, if_pos rfl, decodeSegment,
    unescape_encodeSegment]

theorem length_lt_length_ofSchemaName (name : String) :
    name.toList.length < (ofSchemaName name).toList.length := by
  have henc : ∀ cs : List Char, cs.length ≤ (encodeSegment cs).length := by
    intro cs
    induction cs with
    | nil => simp
    | cons c cs ih =>
      rw [encodeSegment_cons, List.length_append, List.length_cons]
      split
      · simp only [List.length_cons, List.length_nil]
        omega
      · split <;> simp only [List.length_cons, List.length_nil] <;> omega
  have h := henc name.toList
  rw [toList_ofSchemaName]
  simp only [List.length_cons, List.length_append]
  omega

/-- A written reference points to the schema of the name exactly when the name is not empty and
decoding leaves it alone. -/
theorem component?_ofSchemaName_eq_iff {name : String} {self : Option String} :
    component? (ofSchemaName name) self = some ("schemas", name) ↔
      name ≠ "" ∧ Text.hasPercentByte name.toList = false := by
  rw [← Text.percentDecode_eq_self_iff, component?_ofSchemaName]
  constructor
  · intro h
    obtain ⟨hempty, hname⟩ := Option.ite_none_left_eq_some.mp h
    have hdecoded := congrArg String.toList (congrArg Prod.snd (Option.some.inj hname))
    rw [String.toList_ofList] at hdecoded
    refine ⟨?_, hdecoded⟩
    rintro rfl
    exact hempty (by rw [hdecoded]; rfl)
  · rintro ⟨hne, hdecoded⟩
    have hempty : ¬ name.toList.isEmpty = true := by
      rw [List.isEmpty_iff, String.toList_eq_nil_iff]
      exact hne
    rw [hdecoded, if_neg hempty, String.ofList_toList]

theorem displayName_ofSchemaName_iff {name : String} {self : Option String} :
    displayName (ofSchemaName name) self = name ↔
      component? (ofSchemaName name) self = some ("schemas", name) := by
  have hlt := length_lt_length_ofSchemaName name
  unfold displayName
  rw [component?_ofSchemaName]
  split
  · next found heq =>
    obtain ⟨-, hfound⟩ := Option.ite_none_left_eq_some.mp heq
    obtain ⟨rfl, rfl⟩ := Prod.mk.inj (Option.some.inj hfound)
    rw [heq, Option.some.injEq, Prod.mk.injEq]
    exact ⟨fun h => ⟨rfl, h⟩, fun h => h.2⟩
  · next heq =>
    rw [heq]
    constructor
    · intro h
      rw [h] at hlt
      exact absurd hlt (Nat.lt_irrefl _)
    · intro h
      exact absurd h (by simp)

theorem componentName?_ofSchemaName_iff {name : String} {self : Option String} :
    componentName? (ofSchemaName name) self "schemas" = some name ↔
      component? (ofSchemaName name) self = some ("schemas", name) := by
  unfold componentName?
  cases component? (ofSchemaName name) self with
  | none => simp
  | some found =>
    obtain ⟨sectionName, found⟩ := found
    dsimp only
    rw [Option.ite_none_right_eq_some, Option.some.injEq, Option.some.injEq, Prod.mk.injEq]

/-- A written reference is read back as the name exactly when decoding leaves the name alone. -/
theorem displayName_ofSchemaName_eq_iff {name : String} (hne : name ≠ "") (self : Option String) :
    displayName (ofSchemaName name) self = name ↔
      Text.hasPercentByte name.toList = false := by
  rw [displayName_ofSchemaName_iff, component?_ofSchemaName_eq_iff]
  exact and_iff_right hne

/-- The name that stands for a written reference, and the name of the schema that it points to, are
the name it was written for exactly when that is not empty and holds no percent sign followed by two
hexadecimal digits. -/
theorem ofSchemaName_reads_back_iff (name : String) (self : Option String) :
    (displayName (ofSchemaName name) self = name ↔
      name ≠ "" ∧ ¬ Text.HoldsPercentByte name.toList) ∧
    (componentName? (ofSchemaName name) self "schemas" = some name ↔
      name ≠ "" ∧ ¬ Text.HoldsPercentByte name.toList) := by
  rw [displayName_ofSchemaName_iff, componentName?_ofSchemaName_iff,
    component?_ofSchemaName_eq_iff, ← Text.hasPercentByte_iff, Bool.not_eq_true]
  exact ⟨Iff.rfl, Iff.rfl⟩

end Reference
end ApiResolution
