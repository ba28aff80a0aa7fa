import ApiResolution.Entries
import Mathlib.Data.List.Forall2
import Mathlib.Data.List.Nodup

/-!
Lookups in associations. `lookup?` of a name is none exactly when the name is no key, and each
operation on associations is described by what `lookup?` finds afterwards: `lookup?_mapValues`,
`lookup?_modify`, `lookup?_foldl_modify`. An association built by insertions has distinct keys
(`nodup_keys_ofList`), and one with distinct keys is built from itself (`ofList_eq_self`). What is
found determines an association with distinct keys up to its order (`perm_of_lookup?_eq`).
-/

namespace ApiResolution
namespace Entries

variable {α β γ : Type}

theorem keys_cons (e : String × α) (es : Entries α) : keys (e :: es) = e.1 :: keys es := rfl

theorem keys_append (es fs : Entries α) : keys (es ++ fs) = keys es ++ keys fs :=
  List.map_append

theorem lookup?_eq_none_iff {key : String} {es : Entries α} :
    lookup? key es = none ↔ key ∉ keys es := by
  induction es with
  | nil => simp [keys]
  | cons e es ih =>
    rw [keys_cons, List.mem_cons, not_or, ← ih]
    by_cases h : e.1 = key
    · simp [lookup?, h]
    · simp [lookup?, h, Ne.symm h]

theorem isSome_lookup?_iff {key : String} {es : Entries α} :
    (lookup? key es).isSome ↔ key ∈ keys es := by
  rw [← Option.ne_none_iff_isSome, Ne, lookup?_eq_none_iff, Classical.not_not]

theorem contains_iff {key : String} {es : Entries α} : contains key es = true ↔ key ∈ keys es :=
  isSome_lookup?_iff

theorem mem_keys_of_lookup? {key : String} {es : Entries α} {v : α} (h : lookup? key es = some v) :
    key ∈ keys es :=
  isSome_lookup?_iff.mp (by rw [h]; rfl)

theorem exists_lookup?_of_mem_keys {key : String} {es : Entries α} (h : key ∈ keys es) :
    ∃ v, lookup? key es = some v :=
  Option.isSome_iff_exists.mp (isSome_lookup?_iff.mpr h)

theorem mem_of_lookup? {key : String} {es : Entries α} {v : α} (h : lookup? key es = some v) :
    (key, v) ∈ es := by
  induction es with
  | nil => simp at h
  | cons e es ih =>
    rw [lookup?_cons] at h
    split at h
    · next he =>
      obtain rfl := Option.some.inj h
      rw [← he]
      exact List.mem_cons_self
    · exact List.mem_cons_of_mem _ (ih h)

theorem mem_keys_of_mem {e : String × α} {es : Entries α} (h : e ∈ es) : e.1 ∈ keys es :=
  List.mem_map_of_mem h

theorem lookup?_of_mem {key : String} {es : Entries α} {v : α} (hn : (keys es).Nodup)
    (h : (key, v) ∈ es) : lookup? key es = some v := by
  induction es with
  | nil => simp at h
  | cons e es ih =>
    rw [keys_cons, List.nodup_cons] at hn
    rcases List.mem_cons.mp h with rfl | h
    · simp [lookup?]
    · have hne : e.1 ≠ key := fun he => hn.1 (he ▸ mem_keys_of_mem h)
      rw [lookup?_cons, if_neg hne]
      exact ih hn.2 h

theorem lookup?_append (key : String) (es fs : Entries α) :
    lookup? key (es ++ fs) = (lookup? key es).or (lookup? key fs) := by
  induction es with
  | nil => simp
  | cons e es ih =>
    by_cases h : e.1 = key
    · simp [lookup?, h]
    · simp [lookup?, h, ih]

theorem lookup?_map (key : String) (f : String → α → β) (es : Entries α) :
    lookup? key (es.map fun e => (e.1, f e.1 e.2)) = (lookup? key es).map (f key) := by
  induction es with
  | nil => rfl
  | cons e es ih =>
    by_cases h : e.1 = key
    · simp [lookup?, h]
    · simp [lookup?, h, ih]

@[simp] theorem lookup?_mapValues (key : String) (f : α → β) (es : Entries α) :
    lookup? key (mapValues f es) = (lookup? key es).map f :=
  lookup?_map key (fun _ => f) es

theorem keys_map (f : String → α → β) (es : Entries α) :
    keys (es.map fun e => (e.1, f e.1 e.2)) = keys es := by
  simp [keys]

theorem lookup?_modify (key other : String) (f : α → α) (es : Entries α) :
    lookup? key (modify other f es) =
      if key = other then (lookup? key es).map f else lookup? key es := by
  induction es with
  | nil => simp [modify]
  | cons e es ih =>
    rcases e with ⟨k, v⟩
    by_cases hk : k = other
    · by_cases h : key = other
      · simp [modify, lookup?, hk, h]
      · simp [modify, lookup?, hk, h, Ne.symm h]
    · by_cases h : key = other
      · subst h
        simp only [modify, hk, if_false, lookup?, ih, if_true]
      · simp only [modify, hk, if_false, lookup?, ih, h]

/-- Changes that agree with a view of the values are not seen through it. -/
theorem lookup?_foldl_modify {ι : Type} (view : α → γ) (name : ι → String) (f : ι → α → α)
    (hf : ∀ i a, view (f i a) = view a) (is : List ι) (es : Entries α) (key : String) :
    (lookup? key (is.foldl (fun acc i => modify (name i) (f i) acc) es)).map view =
      (lookup? key es).map view := by
  induction is generalizing es with
  | nil => rfl
  | cons i is ih =>
    rw [List.foldl_cons, ih, lookup?_modify]
    split
    · rw [Option.map_map]
      congr 1
      funext a
      exact hf i a
    · rfl

/-- Changes that relate each value to the new one relate what is found before to what is found
afterwards. -/
theorem exists_of_lookup?_foldl_modify {ι : Type} {R : α → α → Prop} (hrefl : ∀ a, R a a)
    (htrans : ∀ a b c, R a b → R b c → R a c) (name : ι → String) (f : ι → α → α)
    (hf : ∀ i a, R a (f i a)) (is : List ι) {es : Entries α} {key : String} {b : α}
    (h : lookup? key (is.foldl (fun acc i => modify (name i) (f i) acc) es) = some b) :
    ∃ a, lookup? key es = some a ∧ R a b := by
  induction is generalizing es with
  | nil => exact ⟨b, h, hrefl b⟩
  | cons i is ih =>
    obtain ⟨a, ha, hab⟩ := ih h
    rw [lookup?_modify] at ha
    split at ha
    · obtain ⟨a', ha', rfl⟩ := Option.map_eq_some_iff.mp ha
      exact ⟨a', ha', htrans _ _ _ (hf i a') hab⟩
    · exact ⟨a, ha, hab⟩

theorem keys_foldl_modify {ι : Type} (name : ι → String) (f : ι → α → α) (is : List ι)
    (es : Entries α) :
    keys (is.foldl (fun acc i => modify (name i) (f i) acc) es) = keys es := by
  induction is generalizing es with
  | nil => rfl
  | cons i is ih => rw [List.foldl_cons, ih, keys_modify]

/-- Changes under distinct names: each value is changed by the change under its name. -/
theorem lookup?_foldl_modify_of_nodup (f : γ → α → α) {changes : Entries γ}
    (hn : (keys changes).Nodup) (es : Entries α) (key : String) :
    lookup? key (changes.foldl (fun acc c => modify c.1 (f c.2) acc) es) =
      (lookup? key es).map fun a => ((lookup? key changes).map (f · a)).getD a := by
  induction changes generalizing es with
  | nil => simp
  | cons c changes ih =>
    rw [keys_cons, List.nodup_cons] at hn
    rw [List.foldl_cons, ih hn.2, lookup?_modify]
    by_cases hk : key = c.1
    · have hnone : lookup? key changes = none := lookup?_eq_none_iff.mpr (hk ▸ hn.1)
      rw [if_pos hk, hnone, lookup?_cons, if_pos hk.symm, Option.map_map]
      rfl
    · rw [if_neg hk, lookup?_cons, if_neg (Ne.symm hk)]

/-- Where the entries under other names give nothing, one entry gives all. -/
theorem flatMap_eq_of_mem {es : Entries α} (hn : (keys es).Nodup) {e : String × α} (he : e ∈ es)
    {f : String × α → List β} (hf : ∀ e' ∈ es, e'.1 ≠ e.1 → f e' = []) : es.flatMap f = f e := by
  induction es with
  | nil => simp at he
  | cons first es ih =>
    rw [keys_cons, List.nodup_cons] at hn
    rw [List.forall_mem_cons] at hf
    rw [List.flatMap_cons]
    rcases List.mem_cons.mp he with rfl | he
    · have hrest : es.flatMap f = [] := by
        refine List.flatMap_eq_nil_iff.mpr fun e' he' => hf.2 e' he' fun heq => hn.1 ?_
        exact heq ▸ mem_keys_of_mem he'
      rw [hrest, List.append_nil]
    · have hne : first.1 ≠ e.1 := fun heq => hn.1 (heq ▸ mem_keys_of_mem he)
      rw [hf.1 hne, List.nil_append, ih hn.2 he hf.2]

/-! ## What holds of every value -/

theorem forall_mem_mapValues {P : α → Prop} {Q : β → Prop} {f : α → β} (hf : ∀ a, P a → Q (f a))
    {es : Entries α} (h : ∀ e ∈ es, P e.2) : ∀ e ∈ mapValues f es, Q e.2 := by
  intro e he
  obtain ⟨e', he', rfl⟩ := List.mem_map.mp he
  exact hf _ (h e' he')

theorem forall_mem_modify {P : α → Prop} {f : α → α} (hf : ∀ a, P a → P (f a)) (key : String)
    {es : Entries α} (h : ∀ e ∈ es, P e.2) : ∀ e ∈ modify key f es, P e.2 := by
  induction es with
  | nil => exact h
  | cons first es ih =>
    rw [List.forall_mem_cons] at h
    rw [modify]
    split
    · exact List.forall_mem_cons.mpr ⟨hf _ h.1, h.2⟩
    · exact List.forall_mem_cons.mpr ⟨h.1, ih h.2⟩

/-- What every change keeps stays true of every value. -/
theorem forall_mem_foldl_modify {ι : Type} {P : α → Prop} (name : ι → String) (f : ι → α → α)
    (hf : ∀ i a, P a → P (f i a)) (is : List ι) {es : Entries α} (h : ∀ e ∈ es, P e.2) :
    ∀ e ∈ is.foldl (fun acc i => modify (name i) (f i) acc) es, P e.2 := by
  induction is generalizing es with
  | nil => exact h
  | cons i is ih => exact ih (forall_mem_modify (hf i) (name i) h)

/-! ## Insertion -/

theorem nodup_keys_insert {es : Entries α} (key : String) (v : α) (hn : (keys es).Nodup) :
    (keys (insert key v es)).Nodup := by
  rw [keys_insert]
  split
  · exact hn
  · next h =>
    rw [List.nodup_append]
    refine ⟨hn, by simp, ?_⟩
    intro a ha b hb heq
    rw [List.mem_singleton] at hb
    exact h (hb ▸ heq ▸ ha)

theorem nodup_keys_foldl_insert (more : List (String × α)) {es : Entries α}
    (hn : (keys es).Nodup) :
    (keys (more.foldl (fun acc e => insert e.1 e.2 acc) es)).Nodup := by
  induction more generalizing es with
  | nil => exact hn
  | cons e more ih => exact ih (nodup_keys_insert e.1 e.2 hn)

theorem nodup_keys_ofList (es : List (String × α)) : (keys (ofList es)).Nodup :=
  nodup_keys_foldl_insert es List.nodup_nil

theorem insert_of_not_mem {key : String} {es : Entries α} (v : α) (h : key ∉ keys es) :
    insert key v es = es ++ [(key, v)] := by
  induction es with
  | nil => rfl
  | cons e es ih =>
    rw [keys_cons, List.mem_cons, not_or] at h
    rw [insert, if_neg (Ne.symm h.1), ih h.2, List.cons_append]

theorem mem_insert {key : String} {v : α} {es : Entries α} {e : String × α}
    (h : e ∈ insert key v es) : e = (key, v) ∨ e ∈ es := by
  induction es with
  | nil => exact .inl (List.mem_singleton.mp h)
  | cons first es ih =>
    rw [insert] at h
    split at h
    · next hk =>
      rcases List.mem_cons.mp h with rfl | h
      · exact .inl (by rw [hk])
      · exact .inr (List.mem_cons_of_mem _ h)
    · rcases List.mem_cons.mp h with rfl | h
      · exact .inr List.mem_cons_self
      · exact (ih h).imp id (List.mem_cons_of_mem _)

theorem mem_foldl_insert {more es : List (String × α)} {e : String × α}
    (h : e ∈ more.foldl (fun acc e => insert e.1 e.2 acc) es) : e ∈ more ∨ e ∈ es := by
  induction more generalizing es with
  | nil => exact .inr h
  | cons first more ih =>
    rcases ih h with h | h
    · exact .inl (List.mem_cons_of_mem _ h)
    · rcases mem_insert h with rfl | h
      · exact .inl List.mem_cons_self
      · exact .inr h

theorem mem_of_mem_ofList {es : List (String × α)} {e : String × α} (h : e ∈ ofList es) : e ∈ es :=
  (mem_foldl_insert h).resolve_right List.not_mem_nil

theorem eq_of_mem_insert {key : String} {v : α} {es : Entries α}
    (hn : (keys es).Nodup) {e : String × α} (h : e ∈ insert key v es)
    (hk : e.1 = key) : e = (key, v) := by
  have hlookup := lookup?_of_mem (nodup_keys_insert key v hn) h
  rw [hk, lookup?_insert_self] at hlookup
  exact Prod.ext hk (Option.some.inj hlookup).symm

theorem foldl_insert_of_nodup (more : List (String × α)) (es : Entries α)
    (hn : (keys (es ++ more)).Nodup) :
    more.foldl (fun acc e => insert e.1 e.2 acc) es = es ++ more := by
  induction more generalizing es with
  | nil => simp
  | cons e more ih =>
    have hfresh : e.1 ∉ keys es := by
      rw [keys_append, keys_cons, List.nodup_append] at hn
      exact fun h => hn.2.2 e.1 h e.1 List.mem_cons_self rfl
    rw [List.foldl_cons, insert_of_not_mem e.2 hfresh, ih, List.append_assoc, List.singleton_append]
    rwa [List.append_assoc, List.singleton_append]

theorem ofList_eq_self {es : Entries α} (hn : (keys es).Nodup) : ofList es = es :=
  foldl_insert_of_nodup es [] (by simpa using hn)

/-! ## Order -/

/-- Associations with the same distinct keys are related entry by entry, if what is found in the
one is related to what is found in the other. -/
theorem forall₂_of_lookup? {R : α → β → Prop} {es : Entries α} {fs : Entries β}
    (hkeys : keys fs = keys es) (hn : (keys es).Nodup)
    (h : ∀ key b, lookup? key fs = some b → ∃ a, lookup? key es = some a ∧ R a b) :
    List.Forall₂ (fun e f => f.1 = e.1 ∧ R e.2 f.2) es fs := by
  induction es generalizing fs with
  | nil =>
    obtain rfl : fs = [] := List.map_eq_nil_iff.mp hkeys
    exact .nil
  | cons e es ih =>
    cases fs with
    | nil => exact absurd hkeys (by simp [keys])
    | cons f fs =>
      obtain ⟨hkey, hkeys⟩ := List.cons.inj hkeys
      rw [keys_cons, List.nodup_cons] at hn
      refine .cons ⟨hkey, ?_⟩ (ih hkeys hn.2 fun key b hb => ?_)
      · obtain ⟨a, ha, hab⟩ := h f.1 f.2 (if_pos rfl)
        rw [hkey, lookup?_cons, if_pos rfl] at ha
        rwa [Option.some.inj ha]
      · have hknown : key ∈ keys es := by
          rw [keys, ← hkeys]
          exact mem_keys_of_lookup? hb
        have hne : e.1 ≠ key := fun he => hn.1 (he ▸ hknown)
        obtain ⟨a, ha, hab⟩ := h key b (by rw [lookup?_cons, hkey, if_neg hne, hb])
        rw [lookup?_cons, if_neg hne] at ha
        exact ⟨a, ha, hab⟩

theorem lookup?_reverse {es : Entries α} (hn : (keys es).Nodup) (key : String) :
    lookup? key es.reverse = lookup? key es := by
  have hn' : (keys es.reverse).Nodup := by simpa [keys] using hn
  cases h : lookup? key es with
  | some v => exact lookup?_of_mem hn' (List.mem_reverse.mpr (mem_of_lookup? h))
  | none =>
    rw [lookup?_eq_none_iff] at h ⊢
    simpa [keys] using h

theorem lookup?_filter {p : String → Bool} {key : String} (h : p key = true) (es : Entries α) :
    lookup? key (es.filter fun e => p e.1) = lookup? key es := by
  induction es with
  | nil => rfl
  | cons e es ih =>
    rw [List.filter_cons, lookup?_cons]
    by_cases hkey : e.1 = key
    · rw [hkey, if_pos h, if_pos rfl, lookup?_cons, if_pos hkey]
    · rw [if_neg hkey]
      split
      · rw [lookup?_cons, if_neg hkey, ih]
      · exact ih

/-- Associations with distinct keys in which the same is found differ only in their order. -/
theorem perm_of_lookup?_eq {es fs : Entries α} (hes : (keys es).Nodup) (hfs : (keys fs).Nodup)
    (h : ∀ key, lookup? key es = lookup? key fs) : es.Perm fs := by
  rw [List.perm_ext_iff_of_nodup (List.Nodup.of_map _ hes) (List.Nodup.of_map _ hfs)]
  rintro ⟨key, v⟩
  constructor
  · intro hmem
    exact mem_of_lookup? ((h key).symm.trans (lookup?_of_mem hes hmem))
  · intro hmem
    exact mem_of_lookup? ((h key).trans (lookup?_of_mem hfs hmem))

end Entries
end ApiResolution
