import ApiResolution.Proofs.Property.Types

/-!
A name that is only another word for a type. A property that refers to such a name has the type of
the property of the schema behind it, but it takes over none of the constraints beyond those on
texts, and those only if the schema is a text (`alias_transparent_iff`).
-/

namespace ApiResolution

namespace Schema

/-- Whether the values are texts. -/
def isText (s : Schema) : Bool :=
  match s.shape with
  | .scalar .string => true
  | _ => false

/-- The schema states no constraints but those on texts, and not even these if its values are no
texts. -/
structure ConstrainsTextsOnly (s : Schema) : Prop where
  bounds : s.minimum = none ∧ s.maximum = none ∧ s.multipleOf = none
  items : s.minItems = none ∧ s.maxItems = none ∧ s.uniqueItems = false
  texts : s.isText = false → s.pattern = none ∧ s.minLength = none ∧ s.maxLength = none

theorem contents?_of_shape_scalar {s : Schema} {type : ScalarType} (h : s.shape = .scalar type) :
    s.contents? = none := by
  rcases s with ⟨a, shape⟩
  subst h
  rfl

end Schema

/-- The schema behind a name that is only another word for a type is a scalar of that type. -/
theorem Context.scalar_of_isAlias {c : Context} {word : String} {s : Schema}
    (hs : c.schema? word = some s) (h : c.isAlias word = true) :
    c.alias? word = some (s.typeTag c.self) ∧ ∃ type, s.shape = .scalar type := by
  obtain ⟨tag, htag⟩ := Option.isSome_iff_exists.mp h
  have hbehind : s.aliasTag? c.self = some tag := by
    rwa [Context.alias?, hs, Option.bind_some] at htag
  unfold Schema.aliasTag? at hbehind
  split at hbehind
  · next type hshape =>
    split at hbehind
    · exact absurd hbehind (by simp)
    · exact ⟨htag.trans hbehind.symm, type, hshape⟩
  · exact absurd hbehind (by simp)

/-- The constraints on texts among some constraints. -/
def Validation.ofTexts (v : Validation) : Validation :=
  { pattern := v.pattern, minLength := v.minLength, maxLength := v.maxLength }

namespace Property

/-- What is said of the type of a property that is no container. -/
def type (p : Property) : String × String × Option String × TypeFlags :=
  (p.baseType, p.datatype, p.complexType, p.flags)

/-- The constraints of a property, and whether there are any. -/
def constraints (p : Property) : Validation × Bool := (p.validation, p.hasValidation)

theorem type_refreshLeaf (v : Conventions) (p : Property) : (refreshLeaf v p).type = p.type := by
  unfold refreshLeaf
  split <;> rfl

/-- What is said of the type follows from the tag that is set. -/
theorem type_setType (v : Conventions) (tag : TypeTag) (p q : Property) :
    (setType v tag p).type = (setType v tag q).type := by
  unfold setType
  rw [type_refreshLeaf, type_refreshLeaf]
  rfl

theorem constraints_refreshLeaf (v : Conventions) (p : Property) :
    (refreshLeaf v p).constraints = p.constraints := by
  unfold refreshLeaf
  split <;> rfl

theorem constraints_setType (v : Conventions) (tag : TypeTag) (p : Property) :
    (setType v tag p).constraints = p.constraints :=
  constraints_refreshLeaf v _

theorem isObjectShaped_of_isPlain (c : Context) (s t : Schema) {tag : TypeTag}
    (h : tag.isPlain = true) : isObjectShaped c s tag = isObjectShaped c t tag := by
  cases tag with
  | reference name => exact absurd h (by simp [TypeTag.isPlain])
  | _ => rfl

theorem ofSchema_eq_leaf (c : Context) (name : String) {s : Schema} (h : s.contents? = none) :
    ofSchema c name s = leaf c name s := by
  rcases s with ⟨a, shape⟩
  cases shape with
  | array items => exact absurd h (by simp [Schema.contents?])
  | map value ps rs => exact absurd h (by simp [Schema.contents?])
  | _ => rfl

/-- Leaves that are seen with one plain type have one type. -/
theorem type_leaf_congr (c : Context) (name : String) {s t : Schema}
    (hplain : (seenTag c s).isPlain = true) (h : seenTag c t = seenTag c s) :
    (leaf c name t).value.type = (leaf c name s).value.type := by
  have htype := type_setType c.conventions (seenTag c s) ⟨(start c name t).value.2, none⟩
    ⟨(start c name s).value.2, none⟩
  simp only [type, Prod.mk.injEq] at htype
  obtain ⟨hbase, hdata, hcomplex, hflags⟩ := htype
  rw [value_leaf, value_leaf, h, isObjectShaped_of_isPlain c t s hplain]
  simp only [type, hbase, hdata, hcomplex, hflags]

theorem constraints_leaf (c : Context) (name : String) (s : Schema) :
    (leaf c name s).value.constraints =
      let v := inheritText ((s.typeTag c.self).reference?.bind c.schema?)
        (validationOf s (seenTag c s))
      (v, v.isConstrained) := by
  rw [value_leaf]
  refine (constraints_setType _ _ _).trans ?_
  unfold start constraints seenTag
  simp only [Noted.value_bind, Context.value_typeTag, Noted.value_pure]

/-- The constraints that are left are all there are exactly if the schema states no others. -/
theorem ofTexts_validationOf_iff (s : Schema) (tag : TypeTag) :
    (if s.isText then (validationOf s tag).ofTexts else {}) = validationOf s tag ↔
      s.ConstrainsTextsOnly := by
  constructor
  · intro h
    cases htext : s.isText with
    | true =>
      rw [if_pos htext] at h
      simp only [Validation.ofTexts, validationOf, Validation.mk.injEq, @eq_comm _ none,
        Option.map_eq_none_iff, Bool.false_eq, true_and] at h
      obtain ⟨hmin, hmax, -, -, hfewest, hmost, hunique, hmultiple⟩ := h
      exact ⟨⟨hmin, hmax, hmultiple⟩, ⟨hfewest, hmost, hunique⟩,
        fun hnone => absurd (htext.symm.trans hnone) (by simp)⟩
    | false =>
      rw [if_neg (by simp [htext])] at h
      simp only [validationOf, Validation.mk.injEq, @eq_comm _ none, Option.map_eq_none_iff,
        Bool.false_eq] at h
      obtain ⟨hmin, hmax, -, -, hshort, hlong, hpattern, hfewest, hmost, hunique, hmultiple⟩ := h
      exact ⟨⟨hmin, hmax, hmultiple⟩, ⟨hfewest, hmost, hunique⟩, fun _ => ⟨hpattern, hshort, hlong⟩⟩
  · rintro ⟨⟨hmin, hmax, hmultiple⟩, ⟨hfewest, hmost, hunique⟩, htexts⟩
    cases htext : s.isText with
    | true => simp [validationOf, Validation.ofTexts, *]
    | false =>
      obtain ⟨hpattern, hshort, hlong⟩ := htexts htext
      simp [validationOf, *]

theorem inheritText_eq (s : Schema) (tag : TypeTag) :
    inheritText (some s) {} = if s.isText then (validationOf s tag).ofTexts else {} := by
  rcases s with ⟨a, shape⟩
  cases shape with
  | scalar type => cases type <;> rfl
  | _ => rfl

/-- A property that refers to a name which is only another word for a type has the type of the
property of the schema behind the name. Of its constraints it has those on texts, if the schema is a
text, and so it has all of them exactly if the schema states no others. -/
theorem alias_transparent_iff {c : Context} {word : String} {s : Schema}
    (hs : c.schema? word = some s) (halias : c.isAlias word = true) {target : String}
    (href : c.refName? (.reference target) = some word) (name : String) :
    let seen := (ofSchema c name (.reference target)).value
    let own := (ofSchema c name s).value
    seen.type = own.type ∧
      seen.validation = (if s.isText then own.validation.ofTexts else {}) ∧
      seen.hasValidation = seen.validation.isConstrained ∧
      own.hasValidation = own.validation.isConstrained ∧
      (seen.validation = own.validation ↔ s.ConstrainsTextsOnly) := by
  obtain ⟨htag, type, hshape⟩ := Context.scalar_of_isAlias hs halias
  have hplain := Context.isPlain_of_alias? htag
  have hreference : (Schema.reference target).typeTag c.self = .reference word :=
    (Context.of_refName? href).2
  have hown : seenTag c s = s.typeTag c.self := seenTag_of_isPlain hplain
  have hseen : seenTag c (.reference target) = seenTag c s :=
    (seenTag_of_alias? hreference htag).trans hown.symm
  have hconstraints := constraints_leaf c name s
  rw [TypeTag.reference?_of_isPlain hplain, Option.bind_none] at hconstraints
  have hinherited := constraints_leaf c name (.reference target)
  rw [hreference, TypeTag.reference?, Option.bind_some, hs] at hinherited
  rw [ofSchema_eq_leaf c name (Schema.contents?_of_shape_scalar hshape),
    ofSchema_eq_leaf c name (s := .reference target) rfl]
  intro seen own
  obtain ⟨howns, hownHas⟩ := Prod.mk.inj hconstraints
  obtain ⟨hseens, hseenHas⟩ := Prod.mk.inj hinherited
  have hkept : seen.validation = if s.isText then own.validation.ofTexts else {} := by
    rw [hseens, howns]
    exact inheritText_eq s (seenTag c s)
  refine ⟨type_leaf_congr c name (hown ▸ hplain) hseen, hkept, ?_, ?_, ?_⟩
  · rw [hseenHas, hseens]
  · rw [hownHas, howns]
  · rw [hkept, howns]
    exact ofTexts_validationOf_iff s (seenTag c s)

/-- Short texts of capitals. -/
def shortCode : Schema :=
  { shape := .scalar .string, pattern := some "[A-Z]+", maxLength := some 3 }

/-- Positive integers. -/
def positiveCount : Schema := { shape := .scalar .integer, minimum := some (.integer 1) }

/-- A document that names the codes and the counts. -/
def codesAndCounts : Context where
  options := {}
  conventions := .neutral false
  document := { components := { schemas := [("Code", shortCode), ("Count", positiveCount)] } }

/-- A reference to the codes has all their constraints. -/
theorem alias_transparent_code :
    codesAndCounts.schema? "Code" = some shortCode ∧ codesAndCounts.isAlias "Code" = true ∧
      codesAndCounts.refName? (.reference "#/components/schemas/Code") = some "Code" ∧
      (ofSchema codesAndCounts "code" (.reference "#/components/schemas/Code")).value.validation =
        (ofSchema codesAndCounts "code" shortCode).value.validation := by
  have hs : codesAndCounts.schema? "Code" = some shortCode := rfl
  have halias : codesAndCounts.isAlias "Code" = true := by decide
  have href : codesAndCounts.refName? (.reference "#/components/schemas/Code") = some "Code" := by
    decide +kernel
  have htexts : shortCode.ConstrainsTextsOnly :=
    ⟨⟨rfl, rfl, rfl⟩, ⟨rfl, rfl, rfl⟩, fun h => absurd h (by decide)⟩
  exact ⟨hs, halias, href, (alias_transparent_iff hs halias href "code").2.2.2.2.mpr htexts⟩

/-- A reference to the counts is without their bound. -/
theorem alias_opaque_count :
    codesAndCounts.schema? "Count" = some positiveCount ∧ codesAndCounts.isAlias "Count" = true ∧
      codesAndCounts.refName? (.reference "#/components/schemas/Count") = some "Count" ∧
      (let seen :=
        (ofSchema codesAndCounts "count" (.reference "#/components/schemas/Count")).value
      let own := (ofSchema codesAndCounts "count" positiveCount).value
      seen.validation ≠ own.validation ∧ seen.hasValidation ≠ own.hasValidation) :=
  ⟨rfl, by decide, by decide +kernel, by decide +kernel⟩

end Property
end ApiResolution
