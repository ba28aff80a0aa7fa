import ApiResolution.Operation.OfDeclaration
import ApiResolution.Proofs.Conventions

/-!
Names of operations that are made from their places. Such a name ends in the word of the method, so
in an ASCII letter, and every step on the way to an identifier keeps a letter at the end: the name
loses its first word, is cleaned and brought to camel case, and something is always left of it
(`operationName_ne_of_endsInLetter`).
-/

namespace ApiResolution
namespace Identifier

/-- The text ends in an ASCII letter. -/
def EndsInLetter (cs : List Char) : Prop := ∃ before c, cs = before ++ [c] ∧ c.isAlpha = true

namespace EndsInLetter

variable {cs : List Char}

theorem ne_nil (h : EndsInLetter cs) : cs ≠ [] := by
  obtain ⟨before, c, rfl, -⟩ := h
  exact List.concat_ne_nil c before

theorem singleton {c : Char} (hc : c.isAlpha = true) : EndsInLetter [c] := ⟨[], c, rfl, hc⟩

theorem append_left (h : EndsInLetter cs) (before : List Char) : EndsInLetter (before ++ cs) := by
  obtain ⟨front, c, rfl, hc⟩ := h
  exact ⟨before ++ front, c, (List.append_assoc ..).symm, hc⟩

theorem cons (h : EndsInLetter cs) (c : Char) : EndsInLetter (c :: cs) := h.append_left [c]

/-- The letter at the end is the whole text, or the rest of the text ends in it too. -/
theorem cons_cases {c : Char} (h : EndsInLetter (c :: cs)) :
    (cs = [] ∧ c.isAlpha = true) ∨ EndsInLetter cs := by
  obtain ⟨before, d, heq, hd⟩ := h
  cases before with
  | nil =>
    obtain ⟨rfl, rfl⟩ := List.cons.inj heq
    exact .inl ⟨rfl, hd⟩
  | cons first before => exact .inr ⟨before, d, (List.cons.inj heq).2, hd⟩

/-- A character that is no letter is not at the end. -/
theorem of_cons {c : Char} (h : EndsInLetter (c :: cs)) (hc : c.isAlpha = false) :
    EndsInLetter cs := by
  refine h.cons_cases.resolve_left fun hlast => ?_
  rw [hlast.2] at hc
  exact absurd hc (by simp)

end EndsInLetter

/-! ## Characters -/

/-- An ASCII letter has one upper and one lower case, which are letters too. -/
theorem letter_cases {c : Char} (h : c.isAlpha = true) :
    Text.upperChar c = [c.toUpper] ∧ c.toUpper.isAlpha = true ∧
      Text.lowerChar c = [c.toLower] ∧ c.toLower.isAlpha = true := by
  have hall : ∀ n < 128, (Char.ofNat n).isAlpha = true →
      (Char.ofNat n).toUpper.isAlpha = true ∧ (Char.ofNat n).toLower.isAlpha = true := by
    decide +kernel
  have hc : c.toNat < 128 := toNat_lt_of_isAlphanum (by rw [Char.isAlphanum, h, Bool.true_or])
  have hcases := hall c.toNat hc
  rw [Char.ofNat_toNat] at hcases
  obtain ⟨hupper, hlower⟩ := hcases h
  exact ⟨by rw [Text.upperChar, if_pos hc], hupper, by rw [Text.lowerChar, if_pos hc], hlower⟩

theorem isWordChar_of_isAlpha (unicode : Bool) {c : Char} (h : c.isAlpha = true) :
    isWordChar unicode c = true := by
  have halnum : c.isAlphanum = true := by rw [Char.isAlphanum, h, Bool.true_or]
  have hletter : Text.isLetter c = true := by
    rw [Text.isLetter, if_pos (toNat_lt_of_isAlphanum halnum), h]
  cases unicode with
  | false => simp [isWordChar, halnum]
  | true => simp [isWordChar, hletter]

theorem ne_of_isAlpha {c d : Char} (h : c.isAlpha = true) (hd : d.isAlpha = false) : c ≠ d := by
  rintro rfl
  rw [h] at hd
  exact absurd hd (by simp)

theorem isWordBreak_of_isAlpha {c : Char} (h : c.isAlpha = true) : isWordBreak c = false := by
  have halnum : c.isAlphanum = true := by rw [Char.isAlphanum, h, Bool.true_or]
  exact isWordBreak_of_isAlphanum halnum

/-! ## Steps -/

theorem endsInLetter_capitalizeChars {cs : List Char} (h : EndsInLetter cs) :
    EndsInLetter (capitalizeChars cs) := by
  cases cs with
  | nil => exact absurd rfl h.ne_nil
  | cons c cs =>
    rw [capitalizeChars]
    rcases h.cons_cases with ⟨rfl, hc⟩ | h
    · obtain ⟨hupper, hletter, -, -⟩ := letter_cases hc
      rw [hupper, List.append_nil]
      exact .singleton hletter
    · exact h.append_left _

theorem endsInLetter_decapitalizeChars {cs : List Char} (h : EndsInLetter cs) :
    EndsInLetter (decapitalizeChars cs) := by
  cases cs with
  | nil => exact absurd rfl h.ne_nil
  | cons c cs =>
    rw [decapitalizeChars]
    rcases h.cons_cases with ⟨rfl, hc⟩ | h
    · obtain ⟨-, -, hlower, hletter⟩ := letter_cases hc
      rw [hlower, List.append_nil]
      exact .singleton hletter
    · exact h.append_left _

/-- Split where no letter is, a text that ends in a letter has a last piece that does. -/
theorem exists_last_splitWhere {p : Char → Bool} (hp : ∀ c, c.isAlpha = true → p c = false)
    {cs : List Char} (h : EndsInLetter cs) :
    ∃ pieces last, splitWhere p cs = pieces ++ [last] ∧ EndsInLetter last := by
  induction cs with
  | nil => exact absurd rfl h.ne_nil
  | cons c cs ih =>
    rw [splitWhere]
    rcases h.cons_cases with ⟨rfl, hc⟩ | h
    · rw [if_neg (by simp [hp c hc])]
      exact ⟨[], [c], rfl, .singleton hc⟩
    · obtain ⟨pieces, last, hsplit, hlast⟩ := ih h
      rw [hsplit]
      split
      · exact ⟨[] :: pieces, last, rfl, hlast⟩
      · cases pieces with
        | nil => exact ⟨[], c :: last, rfl, hlast.cons c⟩
        | cons piece pieces => exact ⟨(c :: piece) :: pieces, last, rfl, hlast⟩

theorem endsInLetter_camelChars {cs : List Char} (h : EndsInLetter cs) :
    EndsInLetter (camelChars cs) := by
  obtain ⟨pieces, last, hsplit, hlast⟩ := exists_last_splitWhere (p := isWordBreak)
    (fun _ => isWordBreak_of_isAlpha) h
  rw [camelChars, hsplit, List.map_append, List.flatten_append, List.map_singleton,
    List.flatten_singleton]
  exact (endsInLetter_capitalizeChars hlast).append_left _

theorem endsInLetter_sanitizeChars (unicode : Bool) {cs : List Char} (h : EndsInLetter cs) :
    EndsInLetter (sanitizeChars unicode cs) := by
  fun_induction sanitizeChars unicode cs with
  | case1 rest ih => exact ih ((h.of_cons rfl).of_cons rfl)
  | case2 c rest hno hunder ih =>
    have hc : c.isAlpha = false := by
      rcases hunder with rfl | rfl | rfl | rfl | rfl <;> rfl
    exact (ih (h.of_cons hc)).cons '_'
  | case3 c rest hno hunder hword ih =>
    rcases h.cons_cases with ⟨rfl, hc⟩ | h
    · exact .singleton hc
    · exact (ih h).cons c
  | case4 c rest hno hunder hword ih =>
    -- A character that is left out is no letter, so it is not the last one.
    refine ih (h.cons_cases.resolve_left fun hlast => ?_)
    exact hword (isWordChar_of_isAlpha unicode hlast.2)
  | case5 => exact h

theorem endsInLetter_dropWhile (p : Char → Bool) {cs : List Char} (h : EndsInLetter cs) :
    cs.dropWhile p = [] ∨ EndsInLetter (cs.dropWhile p) := by
  induction cs with
  | nil => exact .inl rfl
  | cons c cs ih =>
    rw [List.dropWhile_cons]
    split
    · rcases h.cons_cases with ⟨rfl, -⟩ | h
      · exact .inl rfl
      · exact ih h
    · exact .inr h

theorem endsInLetter_dropFirstWord {s : String} (h : EndsInLetter s.toList) :
    EndsInLetter (dropFirstWord s).toList := by
  unfold dropFirstWord
  split
  · next d rest hdrop =>
    have hunder : d = '_' := by
      have hhead := List.head?_dropWhile_not (· != '_') s.toList
      rw [hdrop] at hhead
      simpa using hhead
    have hrest : EndsInLetter (d :: rest) := by
      rw [← hdrop]
      refine (endsInLetter_dropWhile _ h).resolve_left ?_
      rw [hdrop]
      exact List.cons_ne_nil d rest
    rw [String.toList_ofList]
    exact hrest.of_cons (by rw [hunder]; rfl)
  · exact h

theorem endsInLetter_joinParts {last : List Char} (h : EndsInLetter last) (acc : List Char)
    (parts : List (List Char)) : EndsInLetter (joinParts acc (parts ++ [last])) := by
  induction parts generalizing acc with
  | nil =>
    rw [List.nil_append, joinParts]
    split
    · exact endsInLetter_decapitalizeChars h
    · exact (endsInLetter_capitalizeChars h).append_left acc
  | cons part parts ih =>
    rw [List.cons_append, joinParts]
    split
    · exact ih _
    · exact ih _

/-- A name that is made from a path and a method ends in the word of the method. -/
theorem endsInLetter_ofPathAndMethod (path : String) (method : HttpMethod) :
    EndsInLetter (ofPathAndMethod path method.keyword).toList := by
  have hmethod : EndsInLetter (Text.toLower method.keyword).toList := by
    have hlast : ∃ c, (Text.toLower method.keyword).toList.getLast? = some c ∧
        c.isAlpha = true := by
      cases method <;> exact ⟨_, rfl, rfl⟩
    obtain ⟨c, hc, hletter⟩ := hlast
    obtain ⟨before, hword⟩ := List.getLast?_eq_some_iff.mp hc
    exact ⟨before, c, hword, hletter⟩
  unfold ofPathAndMethod
  dsimp only
  rw [String.toList_ofList]
  obtain ⟨pieces, last, hsplit, hlast⟩ := exists_last_splitWhere (p := (· == '/'))
    (fun c hc => by simpa using ne_of_isAlpha hc (by decide)) ((hmethod.cons '/').append_left
      (path.toList.filter fun c => c != '{' && c != '}'))
  rw [hsplit, List.filter_append, List.filter_cons_of_pos (by simpa using hlast.ne_nil)]
  exact endsInLetter_joinParts hlast _ _

end Identifier

namespace Conventions

/-- The neutral conventions, with libraries that may be selected. -/
def offering (unicode : Bool) (libraries : List String) : Conventions :=
  { neutral unicode with supportedLibraries := libraries }

theorem operationName_offering (unicode : Bool) (libraries : List String) (id : String) :
    (offering unicode libraries).operationName id =
      Identifier.lowerCamel (Identifier.sanitize unicode id) := rfl

/-- Something is left of a name that ends in a letter. -/
theorem operationName_ne_of_endsInLetter (unicode : Bool) (libraries : List String) {id : String}
    (h : Identifier.EndsInLetter id.toList) :
    (offering unicode libraries).operationName id ≠ "" := by
  have hcamel := Identifier.endsInLetter_decapitalizeChars (Identifier.endsInLetter_camelChars
    (Identifier.endsInLetter_sanitizeChars unicode h))
  rw [operationName_offering, Identifier.lowerCamel, Identifier.decapitalize,
    Identifier.upperCamel, Identifier.sanitize, String.toList_ofList, String.toList_ofList]
  intro hempty
  refine hcamel.ne_nil ?_
  rw [← String.toList_ofList (l := Identifier.decapitalizeChars _), hempty]
  rfl

end Conventions

namespace Operation

/-- A name without its first word, if that is asked for. -/
def shortened (o : Options) (name : String) : String :=
  if o.removeOperationIdPrefix then Identifier.dropFirstWord name else name

theorem value_rawName (path : String) (method : HttpMethod) (d : OperationObject) :
    (rawName path method d).value =
      (declaredName? d).getD (Identifier.ofPathAndMethod path method.keyword) := by
  unfold rawName
  split
  · next name hname =>
    rw [hname]
    rfl
  · next hnone =>
    rw [hnone]
    rfl

theorem value_nameOf (c : Context) (path : String) (method : HttpMethod) (d : OperationObject) :
    (nameOf c path method d).value =
      let raw := shortened c.options
        ((declaredName? d).getD (Identifier.ofPathAndMethod path method.keyword))
      let name := c.conventions.operationName raw
      if name.isEmpty then .error (.noOperationName method path raw) else .ok name := by
  rw [← value_rawName]
  rfl

/-- With the neutral names, an operation fails exactly when it declares a name of which nothing is
left. -/
theorem nameOf_eq_error_iff {c : Context} {unicode : Bool} {libraries : List String}
    (hv : c.conventions = .offering unicode libraries) (path : String) (method : HttpMethod)
    (d : OperationObject) :
    (∃ failure, (nameOf c path method d).value = .error failure) ↔
      ∃ name, declaredName? d = some name ∧
        c.conventions.operationName (shortened c.options name) = "" := by
  rw [value_nameOf]
  dsimp only
  cases hd : declaredName? d with
  | some name =>
    rw [Option.getD_some]
    constructor
    · rintro ⟨failure, hfailure⟩
      split at hfailure
      · next hempty => exact ⟨name, rfl, by simpa using hempty⟩
      · exact absurd hfailure (by simp)
    · rintro ⟨name', hname, hempty⟩
      obtain rfl := Option.some.inj hname
      rw [hempty]
      exact ⟨_, rfl⟩
  | none =>
    rw [Option.getD_none]
    have hletter := Identifier.endsInLetter_ofPathAndMethod path method
    have hshort : Identifier.EndsInLetter (shortened c.options
        (Identifier.ofPathAndMethod path method.keyword)).toList := by
      unfold shortened
      split
      · exact Identifier.endsInLetter_dropFirstWord hletter
      · exact hletter
    have hname := Conventions.operationName_ne_of_endsInLetter unicode libraries hshort
    rw [← hv] at hname
    constructor
    · rintro ⟨failure, hfailure⟩
      rw [if_neg (by simpa using hname)] at hfailure
      exact absurd hfailure (by simp)
    · rintro ⟨name, hnone, -⟩
      exact absurd hnone (by simp)

end Operation
end ApiResolution
