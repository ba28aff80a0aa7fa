import ApiResolution.Parameter.Names
import Mathlib.Data.List.DropRight
import Mathlib.Data.List.Nodup
import Mathlib.Data.List.Perm.Subperm
import Mathlib.Order.Monotone.Basic
import Mathlib.Tactic.FinCases
import Mathlib.Tactic.IntervalCases

/-!
The search for a free name. A name is a stem followed by ASCII digits, and `nextName` keeps the stem
and increases the number that the digits write (`number_lt_nextName`). Lower case changes the stem
only, so no two names of the search are the same in any case (`injective_toLower_iterate`), and
among one name more than there are taken ones some name is free (`freeFrom_not_mem`). So the search
needs no bound (`firstFree_freeFrom`).
-/

namespace ApiResolution
namespace Identifier

/-- The ASCII digits at the end of a name. -/
def endDigits (s : String) : List Char := s.toList.rtakeWhile Char.isDigit

/-- A name without the ASCII digits at its end. -/
def stem (s : String) : List Char := s.toList.rdropWhile Char.isDigit

/-- The number that digits write; leading zeros do not count. -/
def numberOf (ds : List Char) : Nat := Nat.ofDigitChars 10 ds 0

theorem stem_append_endDigits (s : String) : stem s ++ endDigits s = s.toList :=
  List.rdropWhile_append_rtakeWhile

theorem isDigit_of_mem_endDigits {s : String} {c : Char} (h : c ∈ endDigits s) :
    c.isDigit = true :=
  List.mem_rtakeWhile_imp h

theorem stem_endDigits_of_toList {s t : String} {ds : List Char} (hd : ∀ c ∈ ds, c.isDigit = true)
    (h : t.toList = stem s ++ ds) : stem t = stem s ∧ endDigits t = ds := by
  have hr : ∀ c ∈ ds.reverse, c.isDigit = true := fun c hc => hd c (List.mem_reverse.mp hc)
  have hstem : stem t = stem s := by
    unfold stem at h ⊢
    rw [h, List.rdropWhile, List.reverse_append, List.dropWhile_append_of_pos hr]
    exact List.rdropWhile_idempotent Char.isDigit s.toList
  refine ⟨hstem, (List.append_right_inj (stem s)).mp ?_⟩
  rw [← h, ← stem_append_endDigits t, hstem]

/-- The number at the end of a name that ends in an underscore and a number. -/
theorem numberOf_endDigits_append (s : String) (k : Nat) :
    numberOf (endDigits (s ++ "_" ++ toString k)) = k := by
  have hstem : stem (s ++ "_") = (s ++ "_").toList := by
    rw [stem, String.toList_append]
    exact List.rdropWhile_concat_neg Char.isDigit s.toList '_' (by decide)
  have hdigits : ∀ c ∈ Nat.toDigits 10 k, c.isDigit = true := fun c hc =>
    Nat.isDigit_of_mem_toDigits (by omega) (by omega) hc
  have hlist : (s ++ "_" ++ toString k).toList = stem (s ++ "_") ++ Nat.toDigits 10 k := by
    rw [String.toList_append, Nat.toString_eq_ofList_toDigits, String.toList_ofList, hstem]
  rw [(stem_endDigits_of_toList hdigits hlist).2, numberOf, Nat.ofDigitChars_ten_toDigits]

/-! ## The next name -/

theorem takeWhile_eq_of_all {α : Type} {p q : α → Bool} (hqp : ∀ a, q a = true → p a = true)
    {l : List α} (h : (l.takeWhile p).all q = true) : l.takeWhile p = l.takeWhile q := by
  induction l with
  | nil => rfl
  | cons a l ih =>
    cases hp : p a with
    | false =>
      have hq : q a = false := by
        rw [← Bool.not_eq_true]
        exact fun hq => absurd (hqp a hq) (by simp [hp])
      rw [List.takeWhile_cons, List.takeWhile_cons, hp, hq]
      rfl
    | true =>
      rw [List.takeWhile_cons, if_pos hp, List.all_cons, Bool.and_eq_true] at h
      rw [List.takeWhile_cons, if_pos hp, List.takeWhile_cons, if_pos h.1, ih h.2]

theorem isDecimalDigit_of_isDigit {c : Char} (h : c.isDigit = true) :
    Text.isDecimalDigit c = true := by
  have hc : c.toNat < 128 := by
    simp only [Char.isDigit, Bool.and_eq_true, decide_eq_true_eq, UInt32.le_iff_toNat_le] at h
    exact Nat.lt_of_le_of_lt h.2 (by decide)
  rw [Text.isDecimalDigit, if_pos hc, h]

/-- Where the digits at the end of a name write a number, they are its ASCII digits. -/
theorem of_counter?_trailingDigits {s : String} {n : Nat}
    (h : counter? (trailingDigits s.toList) = some n) :
    trailingDigits s.toList = endDigits s ∧ numberOf (endDigits s) = n := by
  unfold counter? at h
  split at h
  · exact absurd h (by simp)
  · next hall =>
    have hdigits : (trailingDigits s.toList).all Char.isDigit = true := by
      revert hall
      cases (trailingDigits s.toList).all Char.isDigit <;> simp
    have heq : trailingDigits s.toList = endDigits s := by
      unfold trailingDigits at hdigits ⊢
      rw [List.all_reverse] at hdigits
      rw [takeWhile_eq_of_all (fun _ => isDecimalDigit_of_isDigit) hdigits]
      rfl
    dsimp only at h
    split at h
    · rw [heq] at h
      rw [← Option.some.inj h, numberOf, Nat.ofDigitChars_eq_foldl]
      exact ⟨heq, rfl⟩
    · exact absurd h (by simp)

/-- The next name keeps the stem and ends in digits of a greater number. -/
theorem toList_nextName (s : String) :
    ∃ ds, (∀ c ∈ ds, c.isDigit = true) ∧ (nextName s).toList = stem s ++ ds ∧
      numberOf (endDigits s) < numberOf ds := by
  have happend : (s ++ "2").toList = stem s ++ (endDigits s ++ ['2']) := by
    rw [String.toList_append, ← List.append_assoc, stem_append_endDigits]
    rfl
  have hdigits : ∀ c ∈ endDigits s ++ ['2'], c.isDigit = true := by
    intro c hc
    rcases List.mem_append.mp hc with hc | hc
    · exact isDigit_of_mem_endDigits hc
    · rw [List.mem_singleton.mp hc]
      rfl
  have hgreater : numberOf (endDigits s) < numberOf (endDigits s ++ ['2']) := by
    have h : numberOf (endDigits s ++ ['2']) = 10 * numberOf (endDigits s) + 2 := by
      rw [numberOf, Nat.ofDigitChars_append, Nat.ofDigitChars_cons, Nat.ofDigitChars_nil]
      rfl
    omega
  unfold nextName
  dsimp only
  split
  · next n hn =>
    split
    · obtain ⟨htrailing, hnumber⟩ := of_counter?_trailingDigits hn
      refine ⟨Nat.toDigits 10 (n + 1), fun c hc => Nat.isDigit_of_mem_toDigits (by omega)
        (by omega) hc, ?_, ?_⟩
      · rw [htrailing, String.toList_ofList, Nat.toString_eq_ofList_toDigits, String.toList_ofList]
        congr 1
        have hlen : s.toList.length - (endDigits s).length = (stem s).length := by
          rw [← stem_append_endDigits s, List.length_append, Nat.add_sub_cancel]
        rw [hlen, ← stem_append_endDigits s, List.take_left]
      · rw [hnumber, numberOf, Nat.ofDigitChars_ten_toDigits]
        omega
    · exact ⟨_, hdigits, happend, hgreater⟩
  · exact ⟨_, hdigits, happend, hgreater⟩

theorem stem_nextName (s : String) : stem (nextName s) = stem s := by
  obtain ⟨ds, hd, ht, -⟩ := toList_nextName s
  exact (stem_endDigits_of_toList hd ht).1

/-- The number at the end of the next name is greater. -/
theorem number_lt_nextName (s : String) :
    numberOf (endDigits s) < numberOf (endDigits (nextName s)) := by
  obtain ⟨ds, hd, ht, hlt⟩ := toList_nextName s
  rwa [(stem_endDigits_of_toList hd ht).2]

theorem stem_iterate_nextName (s : String) (k : Nat) : stem (nextName^[k] s) = stem s := by
  induction k with
  | zero => rfl
  | succ k ih => rw [Function.iterate_succ_apply', stem_nextName, ih]

theorem strictMono_number_iterate (s : String) :
    StrictMono fun k => numberOf (endDigits (nextName^[k] s)) := by
  refine strictMono_nat_of_lt_succ fun k => ?_
  rw [Function.iterate_succ_apply']
  exact number_lt_nextName _

/-! ## Lower case -/

theorem mem_digits_of_isDigit {c : Char} (h : c.isDigit = true) :
    c ∈ ['0', '1', '2', '3', '4', '5', '6', '7', '8', '9'] := by
  simp only [Char.isDigit, Bool.and_eq_true, decide_eq_true_eq, UInt32.le_iff_toNat_le] at h
  obtain ⟨hlow, hhigh⟩ := h
  change 48 ≤ c.toNat at hlow
  change c.toNat ≤ 57 at hhigh
  rw [← Char.ofNat_toNat c]
  generalize c.toNat = n at hlow hhigh
  interval_cases n <;> decide

theorem digit_caseless {c : Char} (h : c.isDigit = true) :
    Text.isCaseIgnorable c = false ∧ Text.isCased c = false ∧ Text.lowerChar c = [c] ∧
      c ≠ Text.capitalSigma := by
  have hc := mem_digits_of_isDigit h
  fin_cases hc <;> decide

theorem startsCased_append_digits {ds : List Char} (hd : ∀ c ∈ ds, c.isDigit = true)
    (cs : List Char) : Text.startsCased (cs ++ ds) = Text.startsCased cs := by
  unfold Text.startsCased
  rw [List.dropWhile_append]
  cases hc : cs.dropWhile Text.isCaseIgnorable with
  | cons c rest => rfl
  | nil =>
    cases ds with
    | nil => rfl
    | cons d ds =>
      obtain ⟨hignored, hcased, -, -⟩ := digit_caseless (hd d List.mem_cons_self)
      simp [hignored, hcased]

theorem lowerFrom_digits (before : List Char) {ds : List Char}
    (hd : ∀ c ∈ ds, c.isDigit = true) : Text.lowerFrom before ds = ds := by
  induction ds generalizing before with
  | nil => rfl
  | cons d ds ih =>
    obtain ⟨-, -, hlower, hsigma⟩ := digit_caseless (hd d List.mem_cons_self)
    rw [Text.lowerFrom, if_neg hsigma, hlower, ih _ fun c hc => hd c (List.mem_cons_of_mem _ hc)]
    rfl

/-- Digits at the end change nothing in the lower case of what stands before them. -/
theorem lowerFrom_append_digits (before cs : List Char) {ds : List Char}
    (hd : ∀ c ∈ ds, c.isDigit = true) :
    Text.lowerFrom before (cs ++ ds) = Text.lowerFrom before cs ++ ds := by
  induction cs generalizing before with
  | nil => rw [List.nil_append, lowerFrom_digits before hd, Text.lowerFrom, List.nil_append]
  | cons c cs ih =>
    rw [List.cons_append, Text.lowerFrom, Text.lowerFrom, ih, startsCased_append_digits hd,
      List.append_assoc]

theorem toList_toLower (s : String) :
    (Text.toLower s).toList = Text.lowerFrom [] (stem s) ++ endDigits s := by
  rw [Text.toLower, String.toList_ofList, ← stem_append_endDigits s,
    lowerFrom_append_digits _ _ fun _ => isDigit_of_mem_endDigits]

/-- No two names of the search are the same in any case. -/
theorem injective_toLower_iterate (s : String) :
    Function.Injective fun k => Text.toLower (nextName^[k] s) := by
  intro i j h
  have hlist := congrArg String.toList h
  rw [toList_toLower, toList_toLower, stem_iterate_nextName, stem_iterate_nextName] at hlist
  have hdigits := List.append_cancel_left hlist
  exact (strictMono_number_iterate s).injective (congrArg numberOf hdigits)

theorem injective_iterate (s : String) : Function.Injective fun k => nextName^[k] s :=
  fun _ _ h => injective_toLower_iterate s (congrArg Text.toLower h)

/-! ## The search -/

/-- A search that ends at a taken name has met taken names only. -/
theorem taken_of_taken_freeFrom (isTaken : String → Bool) {rest : Nat} {s : String}
    (h : isTaken (freeFrom isTaken rest s) = true) :
    ∀ k ≤ rest, isTaken (nextName^[k] s) = true := by
  induction rest generalizing s with
  | zero =>
    intro k hk
    rw [Nat.le_zero.mp hk]
    exact h
  | succ rest ih =>
    intro k hk
    rw [freeFrom] at h
    by_cases hs : isTaken s = true
    · rw [if_pos hs] at h
      cases k with
      | zero => exact hs
      | succ k => exact ih h k (Nat.le_of_succ_le_succ hk)
    · rw [if_neg hs] at h
      exact absurd h hs

/-- Among one name more than there are taken ones, some name is not taken. -/
theorem exists_not_mem_of_injective {f : Nat → String} (hf : Function.Injective f)
    (taken : List String) : ∃ k ≤ taken.length, f k ∉ taken := by
  by_contra hnone
  have hall : ∀ k ≤ taken.length, f k ∈ taken := by
    intro k hk
    by_contra hfree
    exact hnone ⟨k, hk, hfree⟩
  have hn : ((List.range (taken.length + 1)).map f).Nodup := List.Nodup.map hf List.nodup_range
  have hs : (List.range (taken.length + 1)).map f ⊆ taken := by
    intro t ht
    obtain ⟨k, hk, rfl⟩ := List.mem_map.mp ht
    exact hall k (Nat.le_of_lt_succ (List.mem_range.mp hk))
  have hlen := (hn.subperm hs).length_le
  rw [List.length_map, List.length_range] at hlen
  omega

/-- The search finds a name that is not taken, in any view of names that tells those of the search
apart. -/
theorem freeFrom_not_mem_of_injective {view : String → String} {s : String}
    (hview : Function.Injective fun k => view (nextName^[k] s)) (taken : List String) :
    view (freeFrom (fun n => taken.contains (view n)) (taken.length + 1) s) ∉ taken := by
  intro h
  have hall := taken_of_taken_freeFrom (fun n => taken.contains (view n))
    (List.contains_iff_mem.mpr h)
  obtain ⟨k, hk, hfree⟩ := exists_not_mem_of_injective hview taken
  exact hfree (List.contains_iff_mem.mp (hall k (Nat.le_succ_of_le hk)))

/-- The search finds a name that is not taken in any case. -/
theorem freeFrom_not_mem (taken : List String) (s : String) :
    Text.toLower (freeFrom (fun n => taken.contains (Text.toLower n)) (taken.length + 1) s) ∉
      taken :=
  freeFrom_not_mem_of_injective (injective_toLower_iterate s) taken

/-- The search finds a name that is not taken as it is written. -/
theorem freeFrom_contains_not_mem (taken : List String) (s : String) :
    freeFrom taken.contains (taken.length + 1) s ∉ taken :=
  @freeFrom_not_mem_of_injective id s (injective_iterate s) taken

/-- The first name from a name on that is not taken, of a search without a bound. -/
def FirstFree (taken : String → Prop) (s free : String) : Prop :=
  ∃ k, free = nextName^[k] s ∧ ¬ taken free ∧ ∀ j < k, taken (nextName^[j] s)

theorem FirstFree.congr {taken other : String → Prop} (h : ∀ n, taken n ↔ other n)
    {s free : String} (hfree : FirstFree taken s free) : FirstFree other s free := by
  rwa [← funext fun n => propext (h n)]

/-- A search that ends at a free name has found the first one. -/
theorem firstFree_freeFrom {taken : List String} {rest : Nat} {s : String}
    (h : freeFrom taken.contains rest s ∉ taken) :
    FirstFree (· ∈ taken) s (freeFrom taken.contains rest s) := by
  induction rest generalizing s with
  | zero => exact ⟨0, rfl, h, fun j hj => absurd hj (Nat.not_lt_zero j)⟩
  | succ rest ih =>
    rw [freeFrom] at h ⊢
    split
    · next hs =>
      rw [if_pos hs] at h
      obtain ⟨k, hk, hfree, hbefore⟩ := ih h
      refine ⟨k + 1, hk, hfree, fun j hj => ?_⟩
      cases j with
      | zero => exact List.contains_iff_mem.mp hs
      | succ j => exact hbefore j (Nat.lt_of_succ_lt_succ hj)
    · next hs =>
      exact ⟨0, rfl, fun hmem => hs (List.contains_iff_mem.mpr hmem),
        fun j hj => absurd hj (Nat.not_lt_zero j)⟩

/-- A name that is not taken is kept. -/
theorem freeFrom_of_not_mem {taken : List String} {s : String} (h : s ∉ taken) (rest : Nat) :
    freeFrom taken.contains rest s = s := by
  cases rest with
  | zero => rfl
  | succ rest => rw [freeFrom, if_neg fun hs => h (List.contains_iff_mem.mp hs)]

end Identifier
end ApiResolution
