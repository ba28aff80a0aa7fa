import ApiResolution.Proofs.Schema.Equality
import ApiResolution.Proofs.Schema.RoundTrip
import Mathlib.Data.Option.Basic
import Mathlib.Data.List.Forall2
import Mathlib.Data.List.Perm.Subperm

/-!
Equality of schemas is an equivalence among those in which no mapping has a name twice, and what is
read is such a schema (`Schema.distinct_of_read?`). The laws follow from one property of a single
schema (`Comparable`, with `Comparable.symm` and `Comparable.trans`), which schemas, JSON values and
their parts get from the parts inside them (`Schema.comparable`).
-/

namespace ApiResolution

variable {α β : Type}

/-- An element is related to itself, and to it is related whatever is related to the same as it
is. -/
structure Comparable (r : α → α → Prop) (y : α) : Prop where
  refl : r y y
  euclid : ∀ {x z}, r x z → r y z → r x y

namespace Comparable

variable {r s : α → α → Prop} {x y z : α}

theorem symm (hx : Comparable r x) (hy : Comparable r y) (h : r x y) : r y x :=
  hx.euclid hy.refl h

theorem trans (hy : Comparable r y) (hz : Comparable r z) (hxy : r x y) (hyz : r y z) : r x z :=
  hz.euclid hxy (hy.symm hz hyz)

protected theorem eq (y : α) : Comparable Eq y := ⟨rfl, fun hx hy => hx.trans hy.symm⟩

theorem and (h : Comparable r y) (h' : Comparable s y) :
    Comparable (fun x y => r x y ∧ s x y) y :=
  ⟨⟨h.refl, h'.refl⟩, fun hx hy => ⟨h.euclid hx.1 hy.1, h'.euclid hx.2 hy.2⟩⟩

theorem on (f : β → α) {y : β} (h : Comparable r (f y)) :
    Comparable (fun x y => r (f x) (f y)) y :=
  ⟨h.refl, h.euclid⟩

theorem congr (hrs : ∀ x z, r x z ↔ s x z) (h : Comparable r y) : Comparable s y :=
  ⟨(hrs y y).mp h.refl, fun {x z} hx hy =>
    (hrs x y).mp (h.euclid ((hrs x z).mpr hx) ((hrs y z).mpr hy))⟩

theorem option {o : Option α} (h : ∀ y ∈ o, Comparable r y) : Comparable (Option.Rel r) o := by
  cases o with
  | none => exact ⟨.none, fun hx hy => by cases hy; exact hx⟩
  | some y =>
    refine ⟨.some (h y rfl).refl, fun hx hy => ?_⟩
    cases hy with
    | some hy =>
      cases hx with
      | some hx => exact .some ((h y rfl).euclid hx hy)

theorem list {ys : List α} (h : ∀ y ∈ ys, Comparable r y) : Comparable (List.Forall₂ r) ys := by
  induction ys with
  | nil => exact ⟨.nil, fun hx hy => by cases hy; exact hx⟩
  | cons y ys ih =>
    rw [List.forall_mem_cons] at h
    refine ⟨.cons h.1.refl (ih h.2).refl, fun hx hy => ?_⟩
    cases hy with
    | cons hy hys =>
      cases hx with
      | cons hx hxs => exact .cons (h.1.euclid hx hy) ((ih h.2).euclid hxs hys)

end Comparable

/-- Associations have as many entries, and each entry of the first is related to what the second has
under its name. -/
def Entries.Agree (r : α → α → Prop) (es fs : Entries α) : Prop :=
  es.length = fs.length ∧ ∀ e ∈ es, ∃ w, Entries.lookup? e.1 fs = some w ∧ r e.2 w

theorem Entries.Agree.keys_subset {r : α → α → Prop} {es fs : Entries α} (h : Agree r es fs) :
    keys es ⊆ keys fs := by
  intro key hkey
  obtain ⟨e, he, rfl⟩ := List.mem_map.mp hkey
  obtain ⟨w, hw, -⟩ := h.2 e he
  exact mem_keys_of_lookup? hw

theorem Comparable.entries {r : α → α → Prop} {fs : Entries α} (hn : (Entries.keys fs).Nodup)
    (h : ∀ f ∈ fs, Comparable r f.2) : Comparable (Entries.Agree r) fs := by
  refine ⟨⟨rfl, fun f hf => ⟨f.2, Entries.lookup?_of_mem hn hf, (h f hf).refl⟩⟩, ?_⟩
  intro es gs hes hfs
  have hlength : (Entries.keys gs).length ≤ (Entries.keys fs).length := by
    simp [Entries.keys, hfs.1]
  -- The names of the second are as many as those of the third and among them.
  have hperm : (Entries.keys fs).Perm (Entries.keys gs) :=
    (List.subperm_of_subset hn hfs.keys_subset).perm_of_length_le hlength
  refine ⟨hes.1.trans hfs.1.symm, fun e he => ?_⟩
  obtain ⟨w, hw, hew⟩ := hes.2 e he
  obtain ⟨v, hv⟩ := Entries.exists_lookup?_of_mem_keys
    (hperm.mem_iff.mpr (Entries.mem_keys_of_lookup? hw))
  have hmem := Entries.mem_of_lookup? hv
  obtain ⟨w', hw', hvw⟩ := hfs.2 _ hmem
  obtain rfl := Option.some.inj (hw.symm.trans hw')
  exact ⟨v, hv, (h _ hmem).euclid hew hvw⟩

theorem sameOption_iff {same : α → α → Bool} {x y : Option α} :
    sameOption same x y = true ↔ Option.Rel (same · ·) x y := by
  cases x <;> cases y <;> simp [sameOption]

theorem sameEntries_iff {same : α → α → Bool} {es fs : Entries α} :
    sameEntries same es fs = true ↔ Entries.Agree (same · ·) es fs := by
  simp only [sameEntries, Entries.Agree, Bool.and_eq_true, beq_iff_eq, List.all_eq_true]
  refine and_congr_right fun _ => forall₂_congr fun e _ => ?_
  cases Entries.lookup? e.1 fs <;> simp

theorem Number.comparable (n : Number) : Comparable (Number.same · ·) n := by
  cases n with
  | integer n =>
    refine ⟨beq_self_eq_true n, fun {x z} hx hz => ?_⟩
    cases x <;> cases z <;> simp_all [same]
  | double y =>
    refine ⟨by simp [same, Binary64.same], fun {x z} hx hz => ?_⟩
    cases x <;> cases z <;> simp only [same, Binary64.same, Bool.false_eq_true, Bool.or_eq_true,
      beq_iff_eq, Bool.and_eq_true] at hx hz ⊢
    grind

namespace Json

theorem sameItems_iff {xs ys : List Json} :
    sameItems xs ys = true ↔ List.Forall₂ (same · ·) xs ys := by
  induction xs generalizing ys with
  | nil => cases ys <;> simp [sameItems]
  | cons x xs ih => cases ys <;> simp [sameItems, ih]

theorem sameMembers_iff {ms ns : List (String × Json)} : sameMembers ms ns = true ↔
    ∀ m ∈ ms, ∃ w, Entries.lookup? m.1 ns = some w ∧ same m.2 w = true := by
  induction ms with
  | nil => simp [sameMembers]
  | cons m ms ih =>
    rw [sameMembers, Bool.and_eq_true, ih, List.forall_mem_cons]
    refine and_congr_left' ?_
    cases Entries.lookup? m.1 ns <;> simp

theorem same_object_iff {ms ns : List (String × Json)} :
    same (.object ms) (.object ns) = true ↔ Entries.Agree (same · ·) ms ns := by
  rw [same, Bool.and_eq_true, beq_iff_eq, sameMembers_iff]
  rfl

theorem same_array_iff {xs ys : List Json} :
    same (.array xs) (.array ys) = true ↔ List.Forall₂ (same · ·) xs ys := by
  rw [same, sameItems_iff]

/-- Values in which no object has a name twice are compared. -/
theorem Distinct.comparable {j : Json} (h : j.Distinct) : Comparable (same · ·) j := by
  induction h with
  | null =>
    refine ⟨rfl, fun {x z} hx hz => ?_⟩
    cases z <;> simp_all [same]
  | bool b =>
    refine ⟨by simp [same], fun {x z} hx hz => ?_⟩
    cases x <;> cases z <;> simp_all [same]
  | number n =>
    refine ⟨by simpa [same] using n.comparable.refl, fun {x z} hx hz => ?_⟩
    cases x <;> cases z <;> simp only [same, Bool.false_eq_true] at hx hz ⊢
    exact n.comparable.euclid hx hz
  | string s =>
    refine ⟨by simp [same], fun {x z} hx hz => ?_⟩
    cases x <;> cases z <;> simp_all [same]
  | array _ ih =>
    have hitems := Comparable.list ih
    refine ⟨same_array_iff.mpr hitems.refl, fun {x z} hx hz => ?_⟩
    cases x <;> cases z <;> simp only [same, sameItems_iff, Bool.false_eq_true] at hx hz ⊢
    exact hitems.euclid hx hz
  | object hn _ ih =>
    have hmembers := Comparable.entries hn ih
    refine ⟨same_object_iff.mpr hmembers.refl, fun {x z} hx hz => ?_⟩
    cases x <;> cases z <;> simp only [same, Bool.and_eq_true, beq_iff_eq,
      sameMembers_iff, Bool.false_eq_true] at hx hz ⊢
    exact hmembers.euclid hx hz

end Json

/-- No mapping among annotations has a name twice. -/
structure Annotations.Distinct (a : Annotations) : Prop where
  enumValues : ∀ v ∈ a.enumValues, v.Distinct
  defaultValue : ∀ v ∈ a.defaultValue, v.Distinct
  exampleValue : ∀ v ∈ a.exampleValue, v.Distinct
  mapping : ∀ d ∈ a.discriminator, (Entries.keys d.mapping).Nodup
  nodup : (Entries.keys a.extensions).Nodup
  extensions : ∀ e ∈ a.extensions, e.2.Distinct

theorem Discriminator.same_iff {d e : Discriminator} : d.same e = true ↔
    d.propertyName = e.propertyName ∧ Entries.Agree Eq d.mapping e.mapping := by
  rw [same, Bool.and_eq_true, beq_iff_eq, sameEntries_iff]
  simp only [beq_iff_eq]

theorem Discriminator.comparable {d : Discriminator} (h : (Entries.keys d.mapping).Nodup) :
    Comparable (Discriminator.same · ·) d := by
  refine .congr (fun _ _ => same_iff.symm) ?_
  exact ((Comparable.eq d.propertyName).on propertyName).and
    ((Comparable.entries h fun e _ => .eq e.2).on mapping)

namespace Annotations

/-- The annotations that are compared as they are, without the others. -/
def plain (a : Annotations) : Annotations :=
  { a with
    enumValues := []
    defaultValue := none
    exampleValue := none
    minimum := none
    maximum := none
    multipleOf := none
    discriminator := none
    extensions := [] }

theorem same_iff {a b : Annotations} : a.same b = true ↔
    a.plain = b.plain ∧ List.Forall₂ (Json.same · ·) a.enumValues b.enumValues ∧
      Option.Rel (Json.same · ·) a.defaultValue b.defaultValue ∧
      Option.Rel (Json.same · ·) a.exampleValue b.exampleValue ∧
      Option.Rel (Number.same · ·) a.minimum b.minimum ∧
      Option.Rel (Number.same · ·) a.maximum b.maximum ∧
      Option.Rel (Number.same · ·) a.multipleOf b.multipleOf ∧
      Option.Rel (Discriminator.same · ·) a.discriminator b.discriminator ∧
      Entries.Agree (Json.same · ·) a.extensions b.extensions := by
  simp only [same, plain, Bool.and_eq_true, beq_iff_eq, sameOption_iff, sameEntries_iff,
    Json.sameItems_iff, Annotations.mk.injEq, true_and, and_true]
  tauto

theorem Distinct.comparable {a : Annotations} (h : a.Distinct) :
    Comparable (Annotations.same · ·) a := by
  have hnumber : ∀ n : Option Number, Comparable (Option.Rel (Number.same · ·)) n :=
    fun n => .option fun n _ => n.comparable
  have henum := Comparable.list fun v hv => (h.enumValues v hv).comparable
  have hdefault := Comparable.option fun v hv => (h.defaultValue v hv).comparable
  have hexample := Comparable.option fun v hv => (h.exampleValue v hv).comparable
  have hdiscriminator := Comparable.option fun d hd => Discriminator.comparable (h.mapping d hd)
  have hextensions := Comparable.entries h.nodup fun e he => (h.extensions e he).comparable
  refine .congr (fun _ _ => same_iff.symm) ?_
  exact ((Comparable.eq a.plain).on plain).and <| (henum.on Annotations.enumValues).and <|
    (hdefault.on Annotations.defaultValue).and <| (hexample.on Annotations.exampleValue).and <|
    ((hnumber a.minimum).on Annotations.minimum).and <|
    ((hnumber a.maximum).on Annotations.maximum).and <|
    ((hnumber a.multipleOf).on Annotations.multipleOf).and <|
    (hdiscriminator.on Annotations.discriminator).and <| hextensions.on Annotations.extensions

end Annotations

namespace Shape

/-- A shape without its parts. -/
def plain : Shape α → Shape α
  | array _ => array none
  | map _ _ rs => map none [] rs
  | object _ rs => object [] rs
  | composed _ _ _ _ rs => composed [] [] [] [] rs
  | shape => shape

/-- The items of an array or the values of a map. -/
def element? : Shape α → Option α
  | array items => items
  | map value _ _ => value
  | _ => none

/-- The three lists of branches of a combination. -/
def branches : Shape α → List (List α)
  | composed allOf oneOf anyOf _ _ => [allOf, oneOf, anyOf]
  | _ => []

/-- The properties, none if there cannot be any. -/
def members (shape : Shape α) : Entries α := shape.properties?.getD []

theorem element?_subset_parts {shape : Shape α} {t : α} (h : t ∈ shape.element?) :
    t ∈ shape.parts := by
  cases shape <;> simp_all [element?, parts]

theorem branches_subset_parts {shape : Shape α} {ts : List α} (h : ts ∈ shape.branches) :
    ts ⊆ shape.parts := by
  cases shape <;> simp only [branches, List.not_mem_nil] at h
  intro t ht
  simp only [List.mem_cons, List.not_mem_nil, or_false] at h
  simp only [parts, List.mem_append]
  rcases h with rfl | rfl | rfl
  · exact .inl (.inl (.inl ht))
  · exact .inl (.inl (.inr ht))
  · exact .inl (.inr ht)

theorem members_subset_parts {shape : Shape α} {e : String × α} (h : e ∈ shape.members) :
    e.2 ∈ shape.parts := by
  have hmem : ∀ {ps : List (String × α)}, e ∈ ps → e.2 ∈ ps.map (·.2) := List.mem_map_of_mem
  cases shape <;> simp only [members, properties?, Option.getD_some, Option.getD_none,
    List.not_mem_nil] at h
  · exact List.mem_append_right _ (hmem h)
  · exact hmem h
  · exact List.mem_append_right _ (hmem h)

end Shape

namespace Schema

/-- No mapping in a schema has a name twice, apart from what is inside its parts. -/
structure Distinct (s : Schema) : Prop where
  annotations : s.toAnnotations.Distinct
  members : (Entries.keys s.shape.members).Nodup

theorem Readable.distinct {s : Schema} (h : s.Readable) : s.Distinct := by
  refine ⟨⟨h.enumValues, fun v hv => h.values v (.inl hv), fun v hv => h.values v (.inr hv),
    h.mapping, h.nodup, fun e he => (h.extensions e he).2⟩, ?_⟩
  cases hps : s.shape.properties? with
  | none => simp [Shape.members, hps, Entries.keys]
  | some ps => simpa [Shape.members, hps] using h.properties ps hps

theorem samePart_iff {x y : Option Schema} :
    samePart x y = true ↔ Option.Rel (same · ·) x y := by
  cases x <;> cases y <;> simp [samePart]

theorem sameList_iff {ss ts : List Schema} :
    sameList ss ts = true ↔ List.Forall₂ (same · ·) ss ts := by
  induction ss generalizing ts with
  | nil => cases ts <;> simp [sameList]
  | cons s ss ih => cases ts <;> simp [sameList, ih]

theorem sameProperties_iff {ps qs : List (String × Schema)} : sameProperties ps qs = true ↔
    ∀ p ∈ ps, ∃ t, Entries.lookup? p.1 qs = some t ∧ same p.2 t = true := by
  induction ps with
  | nil => simp [sameProperties]
  | cons p ps ih =>
    rw [sameProperties, Bool.and_eq_true, ih, List.forall_mem_cons]
    refine and_congr_left' ?_
    cases Entries.lookup? p.1 qs <;> simp

theorem sameShape_iff {shape other : Shape Schema} : sameShape shape other = true ↔
    shape.plain = other.plain ∧ Option.Rel (same · ·) shape.element? other.element? ∧
      List.Forall₂ (List.Forall₂ (same · ·)) shape.branches other.branches ∧
      Entries.Agree (same · ·) shape.members other.members := by
  cases shape <;> cases other <;> simp [sameShape, Shape.plain, Shape.element?, Shape.branches,
    Shape.members, Shape.properties?, Entries.Agree, samePart_iff, sameList_iff,
    sameProperties_iff] <;> tauto

/-- Schemas in which no mapping has a name twice are compared. -/
theorem comparable {s : Schema} (h : s.Every Distinct) : Comparable (same · ·) s := by
  induction h with
  | @node s here _ ih =>
    refine .congr (fun _ _ => (same_iff.trans (and_congr_right fun _ => sameShape_iff)).symm) ?_
    have helement : ∀ t ∈ s.shape.element?, Comparable (same · ·) t :=
      fun t ht => ih t (Shape.element?_subset_parts ht)
    have hbranches : ∀ ts ∈ s.shape.branches, ∀ t ∈ ts, Comparable (same · ·) t :=
      fun ts hts t ht => ih t (Shape.branches_subset_parts hts ht)
    have hmembers : ∀ e ∈ s.shape.members, Comparable (same · ·) e.2 :=
      fun e he => ih e.2 (Shape.members_subset_parts he)
    exact (here.annotations.comparable.on toAnnotations).and <|
      ((Comparable.eq s.shape.plain).on fun t : Schema => t.shape.plain).and <|
      ((Comparable.option helement).on fun t : Schema => t.shape.element?).and <|
      ((Comparable.list fun ts hts => .list (hbranches ts hts)).on
        fun t : Schema => t.shape.branches).and <|
      (Comparable.entries here.members hmembers).on fun t : Schema => t.shape.members

/-- Schemas that may be missing are compared too. -/
theorem comparable_option {o : Option Schema} (h : ∀ s ∈ o, s.Every Distinct) :
    Comparable (sameOption same · ·) o :=
  .congr (fun _ _ => sameOption_iff.symm) (.option fun s hs => comparable (h s hs))

/-- No mapping in a schema that was read has a name twice. -/
theorem distinct_of_read? {source : Source} {s : Schema} (h : read? source = some s) :
    s.Every Distinct :=
  (readable_of_read? h).mono fun _ => Readable.distinct

end Schema
end ApiResolution
