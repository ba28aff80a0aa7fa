import ApiResolution.Text.Percent

/-!
Texts that percent-decoding leaves as they are: exactly those in which no percent sign stands before
two hexadecimal digits, since reading such a sign makes a text shorter.
-/

namespace ApiResolution
namespace Text

/-- Whether a percent sign stands before two hexadecimal digits. -/
def hasPercentByte : List Char → Bool
  | '%' :: high :: low :: rest =>
    (hexDigitValue? high).isSome && (hexDigitValue? low).isSome ||
      hasPercentByte (high :: low :: rest)
  | _ :: rest => hasPercentByte rest
  | [] => false

/-- A character is a hexadecimal digit. -/
def IsHexDigit (c : Char) : Prop :=
  '0' ≤ c ∧ c ≤ '9' ∨ 'a' ≤ c ∧ c ≤ 'f' ∨ 'A' ≤ c ∧ c ≤ 'F'

/-- A text holds a percent sign followed by two hexadecimal digits. -/
def HoldsPercentByte (cs : List Char) : Prop :=
  ∃ high low, IsHexDigit high ∧ IsHexDigit low ∧ ['%', high, low] <:+: cs

theorem isSome_hexDigitValue?_iff {c : Char} : (hexDigitValue? c).isSome = true ↔ IsHexDigit c := by
  unfold hexDigitValue? IsHexDigit
  split
  · next hdigit => exact ⟨fun _ => .inl hdigit, fun _ => rfl⟩
  · next hdigit =>
    split
    · next hsmall => exact ⟨fun _ => .inr (.inl hsmall), fun _ => rfl⟩
    · next hsmall =>
      split
      · next hlarge => exact ⟨fun _ => .inr (.inr hlarge), fun _ => rfl⟩
      · next hlarge =>
        constructor
        · intro h
          exact absurd h (by simp)
        · rintro (h | h | h)
          · exact absurd h hdigit
          · exact absurd h hsmall
          · exact absurd h hlarge

theorem hasPercentByte_iff {cs : List Char} :
    hasPercentByte cs = true ↔ HoldsPercentByte cs := by
  fun_induction hasPercentByte cs with
  | case1 high low rest ih =>
    rw [Bool.or_eq_true, Bool.and_eq_true, isSome_hexDigitValue?_iff, isSome_hexDigitValue?_iff, ih]
    constructor
    · rintro (⟨hhigh, hlow⟩ | ⟨h, l, hh, hl, hinfix⟩)
      · exact ⟨high, low, hhigh, hlow, [], rest, rfl⟩
      · exact ⟨h, l, hh, hl, List.infix_cons_iff.mpr (.inr hinfix)⟩
    · rintro ⟨h, l, hh, hl, hinfix⟩
      rcases List.infix_cons_iff.mp hinfix with ⟨after, hprefix⟩ | hinfix
      · obtain ⟨-, htail⟩ := List.cons.inj hprefix
        obtain ⟨hhigh, htail⟩ := List.cons.inj htail
        obtain ⟨hlow, -⟩ := List.cons.inj htail
        exact .inl ⟨hhigh ▸ hh, hlow ▸ hl⟩
      · exact .inr ⟨h, l, hh, hl, hinfix⟩
  | case2 c rest hno ih =>
    rw [ih]
    constructor
    · rintro ⟨h, l, hh, hl, hinfix⟩
      exact ⟨h, l, hh, hl, List.infix_cons_iff.mpr (.inr hinfix)⟩
    · rintro ⟨h, l, hh, hl, hinfix⟩
      rcases List.infix_cons_iff.mp hinfix with ⟨after, hprefix⟩ | hinfix
      · obtain ⟨hpercent, htail⟩ := List.cons.inj hprefix
        exact (hno h l after hpercent.symm htail.symm).elim
      · exact ⟨h, l, hh, hl, hinfix⟩
  | case3 =>
    constructor
    · intro h
      exact absurd h (by simp)
    · rintro ⟨h, l, -, -, hinfix⟩
      exact absurd (List.infix_nil.mp hinfix) (by simp)

theorem length_continuation_le (count low high bits : Nat) (bs : List Nat) :
    (continuation count low high bits bs).2.2.length ≤ bs.length := by
  induction count generalizing low high bits bs with
  | zero => simp [continuation]
  | succ count ih =>
    cases bs with
    | nil => simp [continuation]
    | cons b bs =>
      rw [continuation]
      split
      · exact Nat.le_succ_of_le (ih ..)
      · exact Nat.le_refl _

theorem length_decodeBytes_le (fuel : Nat) (bs : List Nat) :
    (decodeBytes fuel bs).length ≤ bs.length := by
  induction fuel generalizing bs with
  | zero => simp [decodeBytes]
  | succ fuel ih =>
    cases bs with
    | nil => simp [decodeBytes]
    | cons b bs =>
      rw [decodeBytes]
      split
      · simpa using ih bs
      · split
        · simpa using ih bs
        · next size low high _ =>
          have hrest := length_continuation_le (size - 1) low high (b % 2 ^ (7 - size)) bs
          dsimp only
          generalize continuation (size - 1) low high (b % 2 ^ (7 - size)) bs = taken at hrest ⊢
          obtain ⟨bits, missing, left⟩ := taken
          have hdecoded := ih left
          simp only [List.length_cons] at hrest ⊢
          omega

theorem length_decodeUtf8_le (bs : List Nat) : (decodeUtf8 bs).length ≤ bs.length :=
  length_decodeBytes_le _ _

theorem length_percentDecodeFrom_le (pending : List Nat) (cs : List Char) :
    (percentDecodeFrom pending cs).length ≤ pending.length + cs.length := by
  fun_induction percentDecodeFrom pending cs with
  | case1 pending high low rest h l hl hh ih =>
    simp only [List.length_cons] at ih ⊢
    omega
  | case2 pending high low rest hno ih =>
    have h := length_decodeUtf8_le pending.reverse
    simp only [List.length_append, List.length_cons, List.length_reverse, List.length_nil]
      at h ih ⊢
    omega
  | case3 pending c rest hno ih =>
    have h := length_decodeUtf8_le pending.reverse
    simp only [List.length_append, List.length_cons, List.length_reverse, List.length_nil]
      at h ih ⊢
    omega
  | case4 pending =>
    have h := length_decodeUtf8_le pending.reverse
    simpa using h

/-- Reading a percent sign before two hexadecimal digits makes a text shorter. -/
theorem length_percentDecodeFrom_lt (pending : List Nat) (cs : List Char)
    (hp : hasPercentByte cs = true) :
    (percentDecodeFrom pending cs).length < pending.length + cs.length := by
  fun_induction percentDecodeFrom pending cs with
  | case1 pending high low rest h l hl hh ih =>
    have h := length_percentDecodeFrom_le ((h * 16 + l) :: pending) rest
    simp only [List.length_cons] at h ⊢
    omega
  | case2 pending high low rest hno ih =>
    have h := length_decodeUtf8_le pending.reverse
    have hrest : hasPercentByte (high :: low :: rest) = true := by
      rw [hasPercentByte, Bool.or_eq_true, Bool.and_eq_true, Option.isSome_iff_exists,
        Option.isSome_iff_exists] at hp
      rcases hp with ⟨⟨h, hh⟩, l, hl⟩ | hp
      · exact absurd hl (hno h l hh)
      · exact hp
    have ih := ih hrest
    simp only [List.length_append, List.length_cons, List.length_reverse, List.length_nil]
      at h ih ⊢
    omega
  | case3 pending c rest hno ih =>
    have h := length_decodeUtf8_le pending.reverse
    have ih := ih (by rwa [hasPercentByte] at hp; exact hno)
    simp only [List.length_append, List.length_cons, List.length_reverse, List.length_nil]
      at h ih ⊢
    omega
  | case4 pending => exact absurd hp (by simp [hasPercentByte])

theorem percentDecode_eq_self {cs : List Char} (hp : hasPercentByte cs = false) :
    percentDecode cs = cs := by
  unfold percentDecode
  generalize hq : ([] : List Nat) = pending
  fun_induction percentDecodeFrom pending cs with
  | case1 pending high low rest h l hl hh ih =>
    exact absurd hp (by simp [hasPercentByte, hh, hl])
  | case2 pending high low rest hno ih =>
    rw [hasPercentByte, Bool.or_eq_false_iff] at hp
    subst hq
    rw [ih hp.2 rfl]
    rfl
  | case3 pending c rest hno ih =>
    rw [hasPercentByte] at hp
    · subst hq
      rw [ih hp rfl]
      rfl
    · exact hno
  | case4 pending =>
    subst hq
    rfl

/-- Percent-decoding leaves exactly those texts as they are in which no percent sign stands before
two hexadecimal digits. -/
theorem percentDecode_eq_self_iff (cs : List Char) :
    percentDecode cs = cs ↔ hasPercentByte cs = false := by
  refine ⟨fun h => ?_, percentDecode_eq_self⟩
  rw [← Bool.not_eq_true]
  intro hp
  have hlt := length_percentDecodeFrom_lt [] cs hp
  rw [percentDecode] at h
  rw [h] at hlt
  simp at hlt

end Text
end ApiResolution
