import ApiResolution.Number

/-!
The characters of numbers: the text of a number is made of digits, signs, points and the mark of an
exponent (`Number.numeral_text`).
-/

namespace ApiResolution

/-- The characters in which numbers are written. -/
def isNumeral (c : Char) : Bool :=
  c.isDigit || c == '+' || c == '-' || c == '.' || c == 'e'

theorem isNumeral_of_isDigit {c : Char} (h : c.isDigit = true) : isNumeral c = true := by
  simp [isNumeral, h]

/-- Every character of a text stands in numbers. -/
def Numeral (s : String) : Prop := ∀ c ∈ s.toList, isNumeral c = true

instance (s : String) : Decidable (Numeral s) :=
  decidable_of_iff (s.toList.all isNumeral = true) List.all_eq_true

namespace Numeral

variable {s t : String}

theorem append (hs : Numeral s) (ht : Numeral t) : Numeral (s ++ t) := by
  intro c hc
  rw [String.toList_append] at hc
  rcases List.mem_append.mp hc with hc | hc
  · exact hs c hc
  · exact ht c hc

theorem ofList {cs : List Char} (h : ∀ c ∈ cs, isNumeral c = true) :
    Numeral (String.ofList cs) := by
  intro c hc
  rw [String.toList_ofList] at hc
  exact h c hc

theorem mem_toDigits (n : Nat) : ∀ c ∈ Nat.toDigits 10 n, isNumeral c = true := fun _ hc =>
  isNumeral_of_isDigit (Nat.isDigit_of_mem_toDigits (by decide) (by decide) hc)

theorem natural (n : Nat) : Numeral (toString n) := by
  rw [Nat.toString_eq_ofList_toDigits]
  exact ofList (mem_toDigits n)

theorem integer (n : Int) : Numeral (toString n) := by
  cases n with
  | ofNat n => exact natural n
  | negSucc n => exact append (s := "-") (by decide) (natural (n + 1))

theorem exponentText (layout : DecimalLayout) (e : Int) : Numeral (layout.exponentText e) := by
  unfold DecimalLayout.exponentText
  split
  · exact append (by decide) (natural _)
  · refine append ?_ (natural _)
    split <;> decide

theorem decimal (layout : DecimalLayout) (d : Decimal) : Numeral (layout.text d) := by
  have hdigits := mem_toDigits d.digits
  have htake : ∀ n, ∀ c ∈ (Nat.toDigits 10 d.digits).take n, isNumeral c = true :=
    fun _ c hc => hdigits c (List.mem_of_mem_take hc)
  have hdrop : ∀ n, ∀ c ∈ (Nat.toDigits 10 d.digits).drop n, isNumeral c = true :=
    fun _ c hc => hdigits c (List.mem_of_mem_drop hc)
  have hpoint : isNumeral '.' = true := by decide
  have hzeros : ∀ n, ∀ c ∈ List.replicate n '0', isNumeral c = true := by
    intro n c hc
    rw [List.eq_of_mem_replicate hc]
    decide
  unfold DecimalLayout.text
  dsimp only
  split
  · split
    · exact append (ofList (List.forall_mem_append.mpr ⟨hdigits, hzeros _⟩)) (by decide)
    · split
      · refine ofList (List.forall_mem_append.mpr ⟨htake _, ?_⟩)
        exact List.forall_mem_cons.mpr ⟨hpoint, hdrop _⟩
      · refine ofList (List.forall_mem_cons.mpr ⟨by decide, List.forall_mem_cons.mpr ⟨hpoint, ?_⟩⟩)
        exact List.forall_mem_append.mpr ⟨hzeros _, hdigits⟩
  · refine append ?_ (exponentText layout _)
    split
    · exact ofList (htake 1)
    · exact ((ofList (htake 1)).append (by decide)).append (ofList (hdrop 1))

theorem double (layout : DecimalLayout) (x : Binary64) : Numeral (layout.doubleText x) := by
  have hbody : Numeral (if x.isZero then "0.0" else layout.text x.shortest) := by
    split
    · decide
    · exact decimal layout _
  unfold DecimalLayout.doubleText
  dsimp only
  split
  · exact append (by decide) hbody
  · exact hbody

end Numeral

/-- The text of a number holds only characters of numbers. -/
theorem Number.numeral_text (n : Number) : Numeral n.text := by
  cases n with
  | integer n => exact Numeral.integer n
  | double x => exact Numeral.double _ x

end ApiResolution
