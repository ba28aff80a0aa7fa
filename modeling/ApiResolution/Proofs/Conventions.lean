import ApiResolution.Proofs.Context

/-!
The neutral conventions. Their plain type names are primitive, a member name is its own member name
(`varName_varName_neutral`), and as long as identifiers keep to ASCII a type name is its own type
name (`modelName_modelName_neutral`): it consists of letters and digits and starts with none that has
an upper case. Reserved words do not change that (`modelName_modelName_reserving`). Beyond ASCII it
holds of some names only (`KeepsTypeName`).
-/

namespace ApiResolution

namespace Identifier

/-! ## Names of ASCII letters and digits -/

theorem toNat_lt_of_isAlphanum {c : Char} (h : c.isAlphanum = true) : c.toNat < 128 := by
  delta Char.isAlphanum Char.isAlpha Char.isUpper Char.isLower Char.isDigit at h
  simp only [Bool.or_eq_true, Bool.and_eq_true, decide_eq_true_eq, UInt32.le_iff_toNat_le] at h
  have hz : 'z'.val.toNat = 122 := rfl
  have hZ : 'Z'.val.toNat = 90 := rfl
  have h9 : '9'.val.toNat = 57 := rfl
  change c.val.toNat < 128
  omega

/-- An ASCII letter or digit has one upper case, which is one too and its own upper case. -/
theorem upperChar_of_isAlphanum {c : Char} (h : c.isAlphanum = true) :
    Text.upperChar c = [c.toUpper] ∧ c.toUpper.isAlphanum = true ∧
      c.toUpper.toUpper = c.toUpper := by
  have hall : ∀ n < 128, (Char.ofNat n).isAlphanum = true →
      (Char.ofNat n).toUpper.isAlphanum = true ∧
        (Char.ofNat n).toUpper.toUpper = (Char.ofNat n).toUpper := by
    decide +kernel
  have hc : c.toNat < 128 := toNat_lt_of_isAlphanum h
  have hupper := hall c.toNat hc
  rw [Char.ofNat_toNat] at hupper
  exact ⟨by rw [Text.upperChar, if_pos hc], hupper h⟩

/-! ## Clean names -/

theorem isWordChar_of_mem_sanitizeChars {unicode : Bool} {cs : List Char} {c : Char}
    (h : c ∈ sanitizeChars unicode cs) : isWordChar unicode c = true := by
  fun_induction sanitizeChars unicode cs with
  | case1 rest ih => exact ih h
  | case2 c' rest hno hunder ih =>
    rcases List.mem_cons.mp h with rfl | h
    · rfl
    · exact ih h
  | case3 c' rest hno hunder hword ih =>
    rcases List.mem_cons.mp h with rfl | h
    · exact hword
    · exact ih h
  | case4 c' rest hno hunder hword ih => exact ih h
  | case5 => simp at h

theorem sanitizeChars_of_isWordChar {unicode : Bool} {cs : List Char}
    (h : ∀ c ∈ cs, isWordChar unicode c = true) : sanitizeChars unicode cs = cs := by
  induction cs with
  | nil => rfl
  | cons c cs ih =>
    have hword := h c List.mem_cons_self
    have hspecial : ¬ (c = '[' ∨ c = '(' ∨ c = '.' ∨ c = '-' ∨ c = ' ') := by
      rintro (rfl | rfl | rfl | rfl | rfl)
      all_goals cases unicode <;> exact absurd hword (by decide)
    rw [sanitizeChars, if_neg hspecial, if_pos hword,
      ih fun c hc => h c (List.mem_cons_of_mem _ hc)]
    rintro rest rfl
    exact absurd (Or.inl rfl) hspecial

/-- A clean name stays as it is when it is cleaned. -/
theorem sanitize_sanitize (unicode : Bool) (s : String) :
    sanitize unicode (sanitize unicode s) = sanitize unicode s := by
  unfold sanitize
  rw [String.toList_ofList,
    sanitizeChars_of_isWordChar fun c hc => isWordChar_of_mem_sanitizeChars hc]

theorem of_mem_sanitizeChars {cs : List Char} {c : Char} (h : c ∈ sanitizeChars false cs) :
    c = '_' ∨ c.isAlphanum = true := by
  simpa [isWordChar] using isWordChar_of_mem_sanitizeChars h

/-! ## Camel case -/

theorem of_mem_splitWhere {α : Type} {p : α → Bool} {as piece : List α}
    (h : piece ∈ splitWhere p as) : ∀ a ∈ piece, a ∈ as ∧ p a = false := by
  induction as generalizing piece with
  | nil =>
    rw [splitWhere, List.mem_singleton] at h
    simp [h]
  | cons b as ih =>
    intro a ha
    rw [splitWhere] at h
    split at h
    · rcases List.mem_cons.mp h with rfl | h
      · simp at ha
      · exact ⟨List.mem_cons_of_mem _ (ih h a ha).1, (ih h a ha).2⟩
    · next hb =>
      have hb : p b = false := by simpa using hb
      split at h
      · next first rest heq =>
        rcases List.mem_cons.mp h with rfl | h
        · rcases List.mem_cons.mp ha with rfl | ha
          · exact ⟨List.mem_cons_self, hb⟩
          · have hfirst := ih (heq ▸ List.mem_cons_self) a ha
            exact ⟨List.mem_cons_of_mem _ hfirst.1, hfirst.2⟩
        · have hrest := ih (heq ▸ List.mem_cons_of_mem _ h) a ha
          exact ⟨List.mem_cons_of_mem _ hrest.1, hrest.2⟩
      · obtain rfl := List.mem_singleton.mp h
        rw [List.mem_singleton.mp ha]
        exact ⟨List.mem_cons_self, hb⟩

theorem isAlphanum_of_mem_capitalizeChars {cs : List Char}
    (h : ∀ c ∈ cs, c.isAlphanum = true) : ∀ c ∈ capitalizeChars cs, c.isAlphanum = true := by
  cases cs with
  | nil => simp [capitalizeChars]
  | cons d cs =>
    obtain ⟨hupper, halnum, -⟩ := upperChar_of_isAlphanum (h d List.mem_cons_self)
    rw [capitalizeChars, hupper, List.singleton_append]
    intro c hc
    rcases List.mem_cons.mp hc with rfl | hc
    · exact halnum
    · exact h c (List.mem_cons_of_mem _ hc)

/-- What capitalized pieces are joined to starts in upper case. -/
theorem capitalizeChars_flatten {pieces : List (List Char)}
    (h : ∀ piece ∈ pieces, ∀ c ∈ piece, c.isAlphanum = true) :
    capitalizeChars (pieces.map capitalizeChars).flatten =
      (pieces.map capitalizeChars).flatten := by
  induction pieces with
  | nil => rfl
  | cons piece pieces ih =>
    rw [List.map_cons, List.flatten_cons]
    cases piece with
    | nil => exact ih fun piece hp => h piece (List.mem_cons_of_mem _ hp)
    | cons d cs =>
      obtain ⟨hupper, halnum, htwice⟩ :=
        upperChar_of_isAlphanum (h _ List.mem_cons_self d List.mem_cons_self)
      obtain ⟨hupper', -, -⟩ := upperChar_of_isAlphanum halnum
      rw [capitalizeChars, hupper, List.singleton_append, List.cons_append, capitalizeChars,
        hupper', htwice, List.singleton_append]

/-- The camel case of a clean name consists of ASCII letters and digits and starts in upper case. -/
theorem camelChars_sanitizeChars_spec (cs : List Char) :
    (∀ c ∈ camelChars (sanitizeChars false cs), c.isAlphanum = true) ∧
      capitalizeChars (camelChars (sanitizeChars false cs)) =
        camelChars (sanitizeChars false cs) := by
  have hpieces : ∀ piece ∈ splitWhere isWordBreak (sanitizeChars false cs),
      ∀ c ∈ piece, c.isAlphanum = true := by
    intro piece hp c hc
    obtain ⟨hmem, hbreak⟩ := of_mem_splitWhere hp c hc
    rcases of_mem_sanitizeChars hmem with rfl | h
    · simp [isWordBreak] at hbreak
    · exact h
  refine ⟨?_, capitalizeChars_flatten hpieces⟩
  intro c hc
  obtain ⟨piece, hp, hc⟩ := List.mem_flatten.mp hc
  obtain ⟨plain, hplain, rfl⟩ := List.mem_map.mp hp
  exact isAlphanum_of_mem_capitalizeChars (hpieces plain hplain) c hc

theorem isWordBreak_of_isAlphanum {c : Char} (h : c.isAlphanum = true) : isWordBreak c = false := by
  have hne : ∀ d : Char, d.isAlphanum = false → c ≠ d := by
    rintro d hd rfl
    rw [h] at hd
    exact absurd hd (by simp)
  simp [isWordBreak, hne '_' (by decide), hne '-' (by decide), hne '.' (by decide),
    hne '/' (by decide), hne ' ' (by decide)]

theorem sanitizeChars_of_isAlphanum {cs : List Char} (h : ∀ c ∈ cs, c.isAlphanum = true) :
    sanitizeChars false cs = cs :=
  sanitizeChars_of_isWordChar fun c hc => by simp [isWordChar, h c hc]

theorem splitWhere_of_isAlphanum {cs : List Char} (h : ∀ c ∈ cs, c.isAlphanum = true) :
    splitWhere isWordBreak cs = [cs] := by
  induction cs with
  | nil => rfl
  | cons c cs ih =>
    have hbreak := isWordBreak_of_isAlphanum (h c List.mem_cons_self)
    rw [splitWhere, if_neg (by simp [hbreak]), ih fun c hc => h c (List.mem_cons_of_mem _ hc)]

/-- The camel case of a clean name stays as it is when it is cleaned and brought to camel case. -/
theorem upperCamel_sanitize_idem (s : String) :
    upperCamel (sanitize false (upperCamel (sanitize false s))) =
      upperCamel (sanitize false s) := by
  obtain ⟨halnum, hupper⟩ := camelChars_sanitizeChars_spec s.toList
  unfold upperCamel sanitize
  simp only [String.toList_ofList]
  rw [sanitizeChars_of_isAlphanum halnum]
  congr 1
  generalize camelChars (sanitizeChars false s.toList) = cs at halnum hupper
  rw [camelChars, splitWhere_of_isAlphanum halnum, List.map_singleton, List.flatten_singleton,
    hupper]

/-- An underscore at the front stays when a name is cleaned, and goes in camel case. -/
theorem upperCamel_sanitize_underscore (s : String) :
    upperCamel (sanitize false ("_" ++ s)) = upperCamel (sanitize false s) := by
  have hfront : ("_" ++ s).toList = '_' :: s.toList := String.toList_append
  have hspecial : ¬ ('_' = '[' ∨ '_' = '(' ∨ '_' = '.' ∨ '_' = '-' ∨ '_' = ' ') := by decide
  have hclean : sanitizeChars false ('_' :: s.toList) = '_' :: sanitizeChars false s.toList := by
    have hword : isWordChar false '_' = true := rfl
    rw [sanitizeChars, if_neg hspecial, if_pos hword]
    rintro rest ⟨⟩
  unfold upperCamel sanitize
  simp only [String.toList_ofList]
  rw [hfront, hclean]
  rfl

end Identifier

namespace Conventions

variable (unicode : Bool)

theorem typeName_reference_neutral (name : String) :
    (neutral unicode).typeName (.reference name) = (neutral unicode).modelName name := rfl

theorem finishProperty_neutral (m : Model) (p : Property) :
    (neutral unicode).finishProperty m p = p := rfl

/-- A member name is its own member name. -/
theorem varName_varName_neutral (name : String) :
    (neutral unicode).varName ((neutral unicode).varName name) = (neutral unicode).varName name :=
  Identifier.sanitize_sanitize unicode name

/-- The conventions that differ from the neutral ones in their reserved words only. -/
def reserving (words : List String) : Conventions := { reservedWords := words }

/-- A type name is its own type name: where it is a reserved word, the underscore at its front goes
when it is brought to camel case again, and comes back. -/
theorem modelName_modelName_reserving (words : List String) (name : String) :
    (reserving words).modelName ((reserving words).modelName name) =
      (reserving words).modelName name := by
  have hname : ∀ s, (reserving words).modelName s =
      if (reserving words).isReserved (Identifier.upperCamel (Identifier.sanitize false s)) then
        "_" ++ Identifier.upperCamel (Identifier.sanitize false s)
      else Identifier.upperCamel (Identifier.sanitize false s) := fun s => rfl
  have hidem := Identifier.upperCamel_sanitize_idem name
  rw [hname name]
  generalize Identifier.upperCamel (Identifier.sanitize false name) = camel at hidem
  by_cases hreserved : (reserving words).isReserved camel = true
  · rw [if_pos hreserved, hname, Identifier.upperCamel_sanitize_underscore, hidem,
      if_pos hreserved]
  · rw [if_neg hreserved, hname, hidem, if_neg hreserved]

/-- As long as identifiers keep to ASCII, a type name is its own type name. -/
theorem modelName_modelName_neutral (name : String) :
    (neutral false).modelName ((neutral false).modelName name) =
      (neutral false).modelName name :=
  modelName_modelName_reserving [] name

/-- The type name that is made for a name is its own type name. -/
def KeepsTypeName (v : Conventions) (name : String) : Prop :=
  v.modelName (v.modelName name) = v.modelName name

theorem keepsTypeName_of_ascii {unicode : Bool} (hascii : unicode = false) (name : String) :
    (neutral unicode).KeepsTypeName name := by
  rw [hascii]
  exact modelName_modelName_neutral name

/-- A plain type has a primitive type name. -/
theorem isPrimitive_neutral {tag : TypeTag} (h : tag.isPlain = true) :
    (neutral unicode).isPrimitive ((neutral unicode).typeName tag) = true := by
  cases tag with
  | reference name => exact absurd h (by simp [TypeTag.isPlain])
  | array => exact absurd h (by simp [TypeTag.isPlain])
  | map => exact absurd h (by simp [TypeTag.isPlain])
  | _ => rfl

end Conventions
end ApiResolution
