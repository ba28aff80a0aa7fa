import ApiResolution.Document.Reader
import ApiResolution.Operation.Body
import ApiResolution.Proofs.Context
import ApiResolution.Proofs.Schema.Equivalence
import Mathlib.Data.List.Nodup

/-!
How the media types of a request body are distributed over contents. Adding one media type keeps
what holds of those added before it (`Request.Distributed.addMedia`), so a whole body is
distributed: a form has a content of its own unless it has no fields, and two other media types are
in one content exactly if their schemas are equal (`Request.partitions_ofBody`). Equality is an
equivalence only among schemas in which no mapping has a name twice, such as those that are read
(`RequestBodyObject.distinct_of_read?`).
-/

namespace ApiResolution

/-- No mapping in a named schema has a name twice. -/
def Document.DistinctInside (d : Document) : Prop :=
  ∀ e ∈ d.components.schemas, e.2.Every Schema.Distinct

/-- No mapping in a request body has a name twice. -/
structure RequestBodyObject.Distinct (body : RequestBodyObject) : Prop where
  nodup : (Entries.keys body.content).Nodup
  schemas : ∀ e ∈ body.content, ∀ s ∈ e.2.schema, s.Every Schema.Distinct

theorem MediaTypeObject.distinct_of_read? {source : Source} {media : MediaTypeObject}
    (h : read? source = some media) : ∀ s ∈ media.schema, s.Every Schema.Distinct := by
  unfold read? at h
  simp only [Option.bind_eq_bind, Option.bind_eq_some_iff] at h
  obtain ⟨_, -, schema, hschema, _, -, _, -, h⟩ := h
  obtain rfl := Option.some.inj h
  rintro s ⟨⟩
  obtain ⟨m, -, -, hread⟩ := Source.exists_of_optionalField? hschema
  exact Schema.distinct_of_read? hread

theorem RequestBodyObject.distinct_of_read? {source : Source} {body : RequestBodyObject}
    (h : read? source = some body) : body.Distinct := by
  unfold read? at h
  simp only [Option.bind_eq_bind, Option.bind_eq_some_iff] at h
  obtain ⟨_, -, _, -, content, hcontent, _, -, _, -, h⟩ := h
  obtain rfl := Option.some.inj h
  rcases Source.field?_eq_some hcontent with rfl | ⟨source, hread⟩
  · exact ⟨List.nodup_nil, fun e he => absurd he List.not_mem_nil⟩
  · refine ⟨Source.nodup_keys_entries? hread, fun e he => ?_⟩
    obtain ⟨s, hs⟩ := Source.exists_of_mem_entries? hread he
    exact MediaTypeObject.distinct_of_read? hs

theorem Components.distinct_of_read? {source : Source} {components : Components}
    (h : read? source = some components) :
    ∀ e ∈ components.schemas, e.2.Every Schema.Distinct := by
  unfold read? at h
  simp only [Option.bind_eq_bind, Option.bind_eq_some_iff] at h
  obtain ⟨_, -, schemas, hschemas, _, -, _, -, _, -, _, -, _, -, h⟩ := h
  obtain rfl := Option.some.inj h
  rcases Source.field?_eq_some hschemas with rfl | ⟨source, hread⟩
  · exact fun e he => absurd he List.not_mem_nil
  · intro e he
    obtain ⟨s, hs⟩ := Source.exists_of_mem_entries? hread he
    exact Schema.distinct_of_read? hs

theorem Document.distinctInside_of_read? {source : Source} {d : Document}
    (h : read? source = some d) : d.DistinctInside := by
  unfold read? at h
  simp only [Option.bind_eq_bind, Option.bind_eq_some_iff] at h
  obtain ⟨_, -, _, -, _, -, _, -, components, hcomponents, _, -, h⟩ := h
  obtain rfl := Option.some.inj h
  rcases Source.field?_eq_some hcomponents with rfl | ⟨source, hread⟩
  · exact fun e he => absurd he List.not_mem_nil
  · exact Components.distinct_of_read? hread

namespace MediaTypeObject

/-- The schema of a media type at the end of its chain of references. -/
def target? (c : Context) (media : MediaTypeObject) : Option Schema :=
  media.schema.map c.dereference

/-- The fields of a form. -/
def fields (c : Context) (media : MediaTypeObject) : Entries Schema :=
  ((media.target? c).bind Schema.properties?).getD []

end MediaTypeObject

/-- A form has a parameter for each of its fields. -/
theorem Parameter.length_ofForm (c : Context) (contentType : String) (media : MediaTypeObject) :
    (ofForm c contentType media.schema).value.length = (media.fields c).length := by
  unfold ofForm MediaTypeObject.fields MediaTypeObject.target?
  cases media.schema.map c.dereference with
  | none => rfl
  | some s => simp

namespace Request

/-- The content at a place has a media type. -/
def HasAt (r : Request) (i : Nat) (contentType : String) : Prop :=
  ∃ content, r.contents[i]? = some content ∧ contentType ∈ content.contentTypes

/-- A media type gets a content: every one but a form without fields. -/
def placed (c : Context) (e : String × MediaTypeObject) : Bool :=
  !MediaType.isForm e.1 || !(e.2.fields c).isEmpty

/-- A content takes a media type with a schema that is no form. -/
def takes (schema : Option Schema) (b : BodyContent) : Bool :=
  !b.content.isForm && sameOption Schema.same b.schema schema

/-- A content with one media type more. -/
def withType (contentType : String) (b : BodyContent) : BodyContent :=
  { b with content := { b.content with contentTypes := b.content.contentTypes ++ [contentType] } }

/-- Sharing gives the media type to the first content that takes it. -/
theorem share?_eq_some {contentType : String} {schema : Option Schema} {bs bs' : List BodyContent}
    (h : share? contentType schema bs = some bs') : ∃ before b after, bs = before ++ b :: after ∧
      takes schema b = true ∧ bs' = before ++ withType contentType b :: after := by
  induction bs generalizing bs' with
  | nil => exact absurd h (by simp [share?])
  | cons b bs ih =>
    rw [share?] at h
    split at h
    · next htakes => exact ⟨[], b, bs, rfl, htakes, (Option.some.inj h).symm⟩
    · obtain ⟨rest, hrest, rfl⟩ := Option.map_eq_some_iff.mp h
      obtain ⟨before, b', after, rfl, htakes, rfl⟩ := ih hrest
      exact ⟨b :: before, b', after, rfl, htakes, rfl⟩

theorem share?_eq_none {contentType : String} {schema : Option Schema} {bs : List BodyContent}
    (h : share? contentType schema bs = none) : ∀ b ∈ bs, takes schema b = false := by
  induction bs with
  | nil => exact fun b hb => absurd hb List.not_mem_nil
  | cons b bs ih =>
    rw [share?] at h
    split at h
    · exact absurd h (by simp)
    · next htakes =>
      have hrest := ih (Option.map_eq_none_iff.mp h)
      exact List.forall_mem_cons.mpr ⟨Bool.eq_false_iff.mpr htakes, hrest⟩

/-- The parameters of the contents that are forms, or of those that are none. -/
def parametersOf (form : Bool) (r : Request) : List Parameter :=
  (r.contents.filter (·.isForm == form)).flatMap (·.parameters)

/-- What holds after some media types were added. -/
structure Distributed (c : Context) (seen : Entries MediaTypeObject) (r : Request) : Prop where
  consumes : r.consumes = Entries.keys seen
  types : (r.contents.flatMap (·.contentTypes)).Perm (Entries.keys (seen.filter (placed c)))
  kinds : ∀ b ∈ r.bodies, ∀ t ∈ b.content.contentTypes, MediaType.isForm t = b.content.isForm
  schemas : ∀ b ∈ r.bodies, b.content.isForm = false → ∀ e ∈ seen,
    e.1 ∈ b.content.contentTypes → sameOption Schema.same b.schema (e.2.target? c) = true
  apart : r.bodies.Pairwise fun b b' => b'.content.isForm = false → takes b'.schema b = false
  distinct : ∀ b ∈ r.bodies, ∀ s ∈ b.schema, s.Every Schema.Distinct
  nonempty : ∀ b ∈ r.bodies, b.content.contentTypes ≠ []
  single : ∀ b ∈ r.bodies, b.content.isForm = false → ∃ p, b.content.parameters = [p]
  bodyParam : r.bodyParam = (r.parametersOf false).head?
  formParams : r.formParams = r.parametersOf true

namespace Distributed

variable {c : Context} {seen : Entries MediaTypeObject} {r : Request}

theorem empty (c : Context) : Distributed c [] {} where
  consumes := rfl
  types := .refl _
  kinds _ hb := absurd hb List.not_mem_nil
  schemas _ hb := absurd hb List.not_mem_nil
  apart := .nil
  distinct _ hb := absurd hb List.not_mem_nil
  nonempty _ hb := absurd hb List.not_mem_nil
  single _ hb := absurd hb List.not_mem_nil
  bodyParam := rfl
  formParams := rfl

theorem subset_keys (h : Distributed c seen r) {b : BodyContent} (hb : b ∈ r.bodies) :
    b.content.contentTypes ⊆ Entries.keys seen := by
  intro t ht
  have hmem : t ∈ r.contents.flatMap (·.contentTypes) :=
    List.mem_flatMap.mpr ⟨b.content, List.mem_map_of_mem hb, ht⟩
  exact (List.filter_sublist.map Prod.fst).subset (h.types.mem_iff.mp hmem)

theorem schemas_of_fresh (h : Distributed c seen r) {e : String × MediaTypeObject}
    (hfresh : e.1 ∉ Entries.keys seen) : ∀ b ∈ r.bodies, b.content.isForm = false →
      ∀ f ∈ seen ++ [e], f.1 ∈ b.content.contentTypes →
        sameOption Schema.same b.schema (f.2.target? c) = true := by
  intro b hb hform f hf ht
  rcases List.mem_append.mp hf with hf | hf
  · exact h.schemas b hb hform f hf ht
  · obtain rfl := List.mem_singleton.mp hf
    exact absurd (h.subset_keys hb ht) hfresh

theorem keys_placed (c : Context) (seen : Entries MediaTypeObject) (e : String × MediaTypeObject) :
    Entries.keys ((seen ++ [e]).filter (placed c)) =
      Entries.keys (seen.filter (placed c)) ++ if placed c e then [e.1] else [] := by
  rw [List.filter_append, Entries.keys_append]
  cases hplaced : placed c e <;> simp [hplaced, Entries.keys]

/-- A form without fields is only listed. -/
theorem skip (h : Distributed c seen r) {e : String × MediaTypeObject}
    (hfresh : e.1 ∉ Entries.keys seen) (hplaced : placed c e = false) :
    Distributed c (seen ++ [e]) { r with consumes := r.consumes ++ [e.1] } where
  consumes := by rw [h.consumes, Entries.keys_append]; rfl
  types := by
    rw [keys_placed, hplaced, if_neg Bool.false_ne_true, List.append_nil]
    exact h.types
  kinds := h.kinds
  schemas := h.schemas_of_fresh hfresh
  apart := h.apart
  distinct := h.distinct
  nonempty := h.nonempty
  single := h.single
  bodyParam := h.bodyParam
  formParams := h.formParams

/-- A content of its own for a media type. -/
theorem append (h : Distributed c seen r) {e : String × MediaTypeObject}
    (hfresh : e.1 ∉ Entries.keys seen) (hplaced : placed c e = true) {b : BodyContent}
    (htypes : b.content.contentTypes = [e.1]) (hkind : MediaType.isForm e.1 = b.content.isForm)
    (hdistinct : ∀ s ∈ b.schema, s.Every Schema.Distinct)
    (hother : b.content.isForm = false →
      sameOption Schema.same b.schema (e.2.target? c) = true ∧
        (∀ b' ∈ r.bodies, takes b.schema b' = false) ∧ ∃ p, b.content.parameters = [p])
    {r' : Request} (hconsumes : r'.consumes = r.consumes ++ [e.1])
    (hbodies : r'.bodies = r.bodies ++ [b])
    (hbody : r'.bodyParam = (r.parametersOf false ++
      if b.content.isForm then [] else b.content.parameters).head?)
    (hform : r'.formParams = r.parametersOf true ++
      if b.content.isForm then b.content.parameters else []) :
    Distributed c (seen ++ [e]) r' := by
  have hcontents : r'.contents = r.contents ++ [b.content] := by
    rw [contents, hbodies, List.map_append]
    rfl
  have hforall : ∀ {p : BodyContent → Prop}, (∀ b ∈ r.bodies, p b) → p b →
      ∀ b ∈ r'.bodies, p b := by
    intro p hold hnew b' hb'
    rw [hbodies, List.mem_append, List.mem_singleton] at hb'
    rcases hb' with hb' | rfl
    · exact hold b' hb'
    · exact hnew
  refine ⟨?_, ?_, hforall h.kinds ?_, hforall (h.schemas_of_fresh hfresh) ?_, ?_,
    hforall h.distinct hdistinct, hforall h.nonempty (by simp [htypes]),
    hforall h.single fun hnone => (hother hnone).2.2, ?_, ?_⟩
  · rw [hconsumes, h.consumes, Entries.keys_append]
    rfl
  · rw [hcontents, List.flatMap_append, List.flatMap_singleton, htypes, keys_placed, if_pos hplaced]
    exact h.types.append_right _
  · rw [htypes]
    exact fun t ht => List.mem_singleton.mp ht ▸ hkind
  · intro hnone f hf ht
    rw [htypes, List.mem_singleton] at ht
    rcases List.mem_append.mp hf with hf | hf
    · exact absurd (ht ▸ Entries.mem_keys_of_mem hf) hfresh
    · obtain rfl := List.mem_singleton.mp hf
      exact (hother hnone).1
  · rw [hbodies, List.pairwise_append]
    refine ⟨h.apart, List.pairwise_singleton _ _, fun b' hb' b'' hb'' hnone => ?_⟩
    obtain rfl := List.mem_singleton.mp hb''
    exact (hother hnone).2.1 b' hb'
  · rw [hbody, parametersOf, parametersOf, hcontents, List.filter_append, List.flatMap_append]
    cases hkind : b.content.isForm <;> simp [hkind]
  · rw [hform, parametersOf, parametersOf, hcontents, List.filter_append, List.flatMap_append]
    cases hkind : b.content.isForm <;> simp [hkind]

/-- A further media type for a content. -/
theorem share (h : Distributed c seen r) {e : String × MediaTypeObject}
    (hfresh : e.1 ∉ Entries.keys seen) (hkind : MediaType.isForm e.1 = false)
    {bodies : List BodyContent} (hshare : share? e.1 (e.2.target? c) r.bodies = some bodies) :
    Distributed c (seen ++ [e]) { r with consumes := r.consumes ++ [e.1], bodies } := by
  obtain ⟨before, b, after, hbefore, htakes, rfl⟩ := share?_eq_some hshare
  have hplaced : placed c e = true := by simp [placed, hkind]
  have hform : b.content.isForm = false := by simp_all [takes]
  have hsame : sameOption Schema.same b.schema (e.2.target? c) = true := by simp_all [takes]
  have hb : b ∈ r.bodies := hbefore ▸ List.mem_append_cons_self
  have hforall : ∀ {p : BodyContent → Prop}, (∀ b ∈ r.bodies, p b) → p (withType e.1 b) →
      ∀ b' ∈ before ++ withType e.1 b :: after, p b' := by
    intro p hold hnew b' hb'
    rw [List.mem_append, List.mem_cons] at hb'
    rcases hb' with hb' | rfl | hb'
    · exact hold b' (hbefore ▸ List.mem_append_left _ hb')
    · exact hnew
    · exact hold b' (hbefore ▸ List.mem_append_right _ (List.mem_cons_of_mem _ hb'))
  -- The contents keep their parameters.
  have hparameters : ∀ form, parametersOf form { r with
      consumes := r.consumes ++ [e.1], bodies := before ++ withType e.1 b :: after } =
        r.parametersOf form := by
    intro form
    simp only [parametersOf, contents, hbefore, withType, List.map_append, List.map_cons,
      List.filter_append, List.filter_cons, List.flatMap_append]
    split <;> rfl
  refine ⟨?_, ?_, hforall h.kinds ?_, hforall (h.schemas_of_fresh hfresh) ?_, ?_,
    hforall h.distinct (h.distinct b hb), hforall h.nonempty (by simp [withType]),
    hforall h.single (h.single b hb), ?_, ?_⟩
  · rw [h.consumes, Entries.keys_append]
    rfl
  · have htypes := h.types
    rw [contents, hbefore] at htypes
    rw [keys_placed, if_pos hplaced]
    refine .trans ?_ (htypes.append_right _)
    simp only [contents, withType, List.map_append, List.map_cons, List.flatMap_append,
      List.flatMap_cons, List.append_assoc]
    exact .append_left _ (.append_left _ List.perm_append_comm)
  · intro t ht
    rcases List.mem_append.mp ht with ht | ht
    · exact h.kinds b hb t ht
    · rw [List.mem_singleton.mp ht, hkind]
      exact hform.symm
  · intro _ f hf ht
    rcases List.mem_append.mp ht with ht | ht
    · exact h.schemas_of_fresh hfresh b hb hform f hf ht
    · rcases List.mem_append.mp hf with hf | hf
      · exact absurd (List.mem_singleton.mp ht ▸ Entries.mem_keys_of_mem hf) hfresh
      · exact List.mem_singleton.mp hf ▸ hsame
  · have hapart := h.apart
    rw [hbefore] at hapart
    rw [List.pairwise_append, List.pairwise_cons] at hapart ⊢
    refine ⟨hapart.1, hapart.2.1, fun b' hb' => List.forall_mem_cons.mpr ?_⟩
    exact List.forall_mem_cons.mp (hapart.2.2 b' hb')
  · rw [hparameters]
    exact h.bodyParam
  · rw [hparameters]
    exact h.formParams

/-- Adding a media type, with a schema in which no mapping has a name twice. -/
theorem addMedia (h : Distributed c seen r) (body : RequestBodyObject)
    {e : String × MediaTypeObject} (hfresh : e.1 ∉ Entries.keys seen)
    (hschema : ∀ s ∈ e.2.target? c, s.Every Schema.Distinct) :
    Distributed c (seen ++ [e]) (r.addMedia c body e.1 e.2).value := by
  unfold Request.addMedia
  dsimp only
  cases hkind : MediaType.isForm e.1 with
  | true =>
    rw [if_pos rfl, Noted.value_bind, Noted.value_pure, addForm]
    have hlength := Parameter.length_ofForm c e.1 e.2
    split
    · next hempty =>
      refine h.skip hfresh ?_
      have hnone : e.2.fields c = [] := by
        rw [← List.length_eq_zero_iff, ← hlength]
        simpa using hempty
      simp [placed, hkind, hnone]
    · next hsome =>
      refine h.append hfresh ?_ rfl hkind (fun _ hs => absurd hs (Option.not_mem_none _))
        (fun hnone => absurd hnone (by simp)) rfl rfl ?_ ?_
      · rw [placed, hkind, Bool.not_true, Bool.false_or, Bool.not_eq_true', ← Bool.not_eq_true]
        intro hempty
        rw [List.isEmpty_iff.mp hempty, List.length_nil, List.length_eq_zero_iff] at hlength
        exact hsome (by rw [hlength]; rfl)
      · simpa using h.bodyParam
      · simpa using h.formParams
  | false =>
    have htarget : e.2.schema.map c.dereference = e.2.target? c := rfl
    rw [if_neg Bool.false_ne_true, htarget]
    cases hshare : share? e.1 (e.2.target? c) r.bodies with
    | some bodies => exact h.share hfresh hkind hshare
    | none =>
      refine h.append hfresh (by simp [placed, hkind]) rfl hkind hschema (fun _ => ⟨?_, ?_, ?_⟩) rfl
        rfl ?_ ?_
      · exact (Schema.comparable_option hschema).refl
      · exact share?_eq_none hshare
      · exact ⟨_, rfl⟩
      · simp [addBody, h.bodyParam, List.head?_append]
      · simp [addBody, h.formParams]

theorem addAll (body : RequestBodyObject) {content : Entries MediaTypeObject}
    (h : Distributed c seen r) (hnames : (Entries.keys (seen ++ content)).Nodup)
    (hschemas : ∀ e ∈ content, ∀ s ∈ e.2.target? c, s.Every Schema.Distinct) :
    Distributed c (seen ++ content) (Request.addAll c body content r).value := by
  induction content generalizing seen r with
  | nil => exact (List.append_nil seen).symm ▸ h
  | cons e content ih =>
    rw [List.append_cons] at hnames ⊢
    have hfresh : e.1 ∉ Entries.keys seen := by
      rw [Entries.keys_append, Entries.keys_append, List.append_assoc, List.nodup_append] at hnames
      exact fun hmem => hnames.2.2 _ hmem _ List.mem_cons_self rfl
    rw [List.forall_mem_cons] at hschemas
    exact ih (h.addMedia body hfresh hschemas.1) hnames hschemas.2

end Distributed

/-- How the media types of a request body are distributed over contents. -/
structure Partitions (c : Context) (content : Entries MediaTypeObject) (r : Request) : Prop where
  /-- The declared media types are listed once and in order. -/
  consumes : r.consumes = Entries.keys content ∧ r.consumes.Nodup
  /-- A content has only declared media types, at least one and none twice, and is a form exactly if
  they are. -/
  declared : ∀ x ∈ r.contents, x.contentTypes ≠ [] ∧ x.contentTypes.Nodup ∧
    ∀ t ∈ x.contentTypes, t ∈ Entries.keys content ∧ x.isForm = MediaType.isForm t
  /-- Every other media type than a form has exactly one content. -/
  other : ∀ e ∈ content, MediaType.isForm e.1 = false → ∃! i, r.HasAt i e.1
  /-- A form with fields has exactly one content, and one without fields has none. -/
  form : ∀ e ∈ content, MediaType.isForm e.1 = true →
    (e.2.fields c ≠ [] → ∃! i, r.HasAt i e.1) ∧ (e.2.fields c = [] → ∀ i, ¬r.HasAt i e.1)
  /-- Two media types that are no forms share their content exactly if their schemas are equal. -/
  shared : ∀ e ∈ content, ∀ f ∈ content, MediaType.isForm e.1 = false →
    MediaType.isForm f.1 = false → ((∃ i, r.HasAt i e.1 ∧ r.HasAt i f.1) ↔
      sameOption Schema.same (e.2.target? c) (f.2.target? c) = true)
  /-- A content that is no form has exactly one parameter. -/
  single : ∀ x ∈ r.contents, x.isForm = false → ∃ p, x.parameters = [p]
  /-- The parameter of the body is that of the first content that is no form. -/
  bodyParam : r.bodyParam = (r.contents.find? (!·.isForm)).bind (·.parameters.head?)
  /-- The form parameters are those of the contents that are forms, in order. -/
  formParams : r.formParams = (r.contents.filter (·.isForm)).flatMap (·.parameters)

variable {c : Context} {content : Entries MediaTypeObject} {r : Request}

theorem exists_hasAt_iff {t : String} :
    (∃ i, r.HasAt i t) ↔ t ∈ r.contents.flatMap (·.contentTypes) := by
  rw [List.mem_flatMap]
  constructor
  · rintro ⟨i, x, hi, ht⟩
    exact ⟨x, List.mem_of_getElem? hi, ht⟩
  · rintro ⟨x, hx, ht⟩
    obtain ⟨i, hi⟩ := List.mem_iff_getElem?.mp hx
    exact ⟨i, x, hi, ht⟩

theorem eq_of_hasAt (hn : (r.contents.flatMap (·.contentTypes)).Nodup) {i j : Nat} {t : String}
    (hi : r.HasAt i t) (hj : r.HasAt j t) : i = j := by
  have hdisjoint := List.pairwise_iff_getElem.mp (List.nodup_flatMap.mp hn).2
  obtain ⟨x, hx, hxt⟩ := hi
  obtain ⟨y, hy, hyt⟩ := hj
  obtain ⟨hi, rfl⟩ := List.getElem?_eq_some_iff.mp hx
  obtain ⟨hj, rfl⟩ := List.getElem?_eq_some_iff.mp hy
  rcases Nat.lt_trichotomy i j with hlt | heq | hlt
  · exact absurd hyt (hdisjoint i j hi hj hlt hxt)
  · exact heq
  · exact absurd hxt (hdisjoint j i hj hi hlt hyt)

namespace Distributed

theorem nodup (h : Distributed c content r) (hnames : (Entries.keys content).Nodup) :
    (r.contents.flatMap (·.contentTypes)).Nodup :=
  h.types.nodup_iff.mpr (hnames.sublist (List.filter_sublist.map Prod.fst))

theorem existsUnique_hasAt_iff (h : Distributed c content r) (hnames : (Entries.keys content).Nodup)
    {e : String × MediaTypeObject} (he : e ∈ content) :
    (∃! i, r.HasAt i e.1) ↔ placed c e = true := by
  have hmem : (∃ i, r.HasAt i e.1) ↔ placed c e = true := by
    rw [exists_hasAt_iff, h.types.mem_iff]
    constructor
    · intro hkey
      obtain ⟨f, hf, heq⟩ := List.mem_map.mp hkey
      obtain ⟨hf, hplaced⟩ := List.mem_filter.mp hf
      have hvalue : f.2 = e.2 := Option.some.inj <|
        (Entries.lookup?_of_mem hnames (heq ▸ hf)).symm.trans (Entries.lookup?_of_mem hnames he)
      rwa [Prod.ext heq hvalue] at hplaced
    · exact fun hplaced => List.mem_map_of_mem (List.mem_filter.mpr ⟨he, hplaced⟩)
  rw [← hmem]
  refine ⟨fun ⟨i, hi, _⟩ => ⟨i, hi⟩, fun ⟨i, hi⟩ => ⟨i, hi, fun j hj => ?_⟩⟩
  exact eq_of_hasAt (h.nodup hnames) hj hi

theorem exists_body (h : Distributed c content r) {e : String × MediaTypeObject} (he : e ∈ content)
    (hform : MediaType.isForm e.1 = false) {i : Nat} (hi : r.HasAt i e.1) :
    ∃ b, r.bodies[i]? = some b ∧ b.content.isForm = false ∧ b ∈ r.bodies ∧
      sameOption Schema.same b.schema (e.2.target? c) = true := by
  obtain ⟨x, hx, ht⟩ := hi
  rw [contents, List.getElem?_map] at hx
  obtain ⟨b, hb, rfl⟩ := Option.map_eq_some_iff.mp hx
  have hmem := List.mem_of_getElem? hb
  have hnone : b.content.isForm = false := (h.kinds b hmem _ ht).symm.trans hform
  exact ⟨b, hb, hnone, hmem, h.schemas b hmem hnone e he ht⟩

/-- Contents that are no forms have different schemas. -/
theorem eq_of_same (h : Distributed c content r) {i j : Nat} {b b' : BodyContent}
    (hb : r.bodies[i]? = some b) (hb' : r.bodies[j]? = some b') (hform : b.content.isForm = false)
    (hform' : b'.content.isForm = false)
    (hsame : sameOption Schema.same b.schema b'.schema = true) : i = j := by
  have hapart := List.pairwise_iff_getElem.mp h.apart
  have hsame' : sameOption Schema.same b'.schema b.schema = true :=
    (Schema.comparable_option (h.distinct b (List.mem_of_getElem? hb))).symm
      (Schema.comparable_option (h.distinct b' (List.mem_of_getElem? hb'))) hsame
  obtain ⟨hi, rfl⟩ := List.getElem?_eq_some_iff.mp hb
  obtain ⟨hj, rfl⟩ := List.getElem?_eq_some_iff.mp hb'
  rcases Nat.lt_trichotomy i j with hlt | heq | hlt
  · have := hapart i j hi hj hlt hform'
    simp_all [takes]
  · exact heq
  · have := hapart j i hj hi hlt hform
    simp_all [takes]

theorem partitions (h : Distributed c content r) (hnames : (Entries.keys content).Nodup)
    (hschemas : ∀ e ∈ content, ∀ s ∈ e.2.target? c, s.Every Schema.Distinct) :
    Partitions c content r where
  consumes := ⟨h.consumes, h.consumes ▸ hnames⟩
  declared x hx := by
    obtain ⟨b, hb, rfl⟩ := List.mem_map.mp hx
    refine ⟨h.nonempty b hb, (List.nodup_flatMap.mp (h.nodup hnames)).1 _ hx, fun t ht => ?_⟩
    exact ⟨h.subset_keys hb ht, (h.kinds b hb t ht).symm⟩
  other e he hform := (h.existsUnique_hasAt_iff hnames he).mpr (by simp [placed, hform])
  form e he hform := by
    have hiff := h.existsUnique_hasAt_iff hnames he
    constructor
    · exact fun hfields => hiff.mpr (by simp [placed, hfields])
    · intro hfields i hi
      have hplaced := hiff.mp ⟨i, hi, fun j hj => eq_of_hasAt (h.nodup hnames) hj hi⟩
      simp [placed, hform, hfields] at hplaced
  shared e he f hf hform hform' := by
    have hce := Schema.comparable_option (hschemas e he)
    have hcf := Schema.comparable_option (hschemas f hf)
    constructor
    · rintro ⟨i, hi, hi'⟩
      obtain ⟨b, hb, -, hmem, hsame⟩ := h.exists_body he hform hi
      obtain ⟨b', hb', -, -, hsame'⟩ := h.exists_body hf hform' hi'
      obtain rfl := Option.some.inj (hb.symm.trans hb')
      have hcb := Schema.comparable_option (h.distinct b hmem)
      exact hcb.trans hcf (hcb.symm hce hsame) hsame'
    · intro hsame
      obtain ⟨i, hi, -⟩ := (h.existsUnique_hasAt_iff hnames he).mpr (by simp [placed, hform])
      obtain ⟨j, hj, -⟩ := (h.existsUnique_hasAt_iff hnames hf).mpr (by simp [placed, hform'])
      obtain ⟨b, hb, hnone, -, hbe⟩ := h.exists_body he hform hi
      obtain ⟨b', hb', hnone', hmem', hbf⟩ := h.exists_body hf hform' hj
      have hcb' := Schema.comparable_option (h.distinct b' hmem')
      have hbb' := hcb'.euclid (hce.trans hcf hbe hsame) hbf
      exact ⟨i, hi, h.eq_of_same hb hb' hnone hnone' hbb' ▸ hj⟩
  single x hx := by
    obtain ⟨b, hb, rfl⟩ := List.mem_map.mp hx
    exact h.single b hb
  bodyParam := by
    rw [h.bodyParam, parametersOf, ← List.head?_filter]
    simp only [beq_false]
    cases hother : r.contents.filter (!·.isForm) with
    | nil => rfl
    | cons x xs =>
      obtain ⟨hx, hform⟩ := List.mem_filter.mp (hother ▸ List.mem_cons_self : x ∈ _)
      obtain ⟨b, hb, rfl⟩ := List.mem_map.mp hx
      obtain ⟨p, hp⟩ := h.single b hb (by simpa using hform)
      simp [hp]
  formParams := by
    rw [h.formParams, parametersOf]
    simp only [beq_true]

end Distributed

/-- The media types of any request body are distributed, if no mapping in the body or in a named
schema has a name twice. -/
theorem partitions_ofBody {c : Context} {body : RequestBodyObject} (hc : c.document.DistinctInside)
    (hbody : body.Distinct) : Partitions c body.content (ofBody c body).value := by
  have hschemas : ∀ e ∈ body.content, ∀ s ∈ e.2.target? c, s.Every Schema.Distinct := by
    intro e he s hs
    obtain ⟨t, ht, rfl⟩ := Option.map_eq_some_iff.mp hs
    exact Context.of_dereference hc (hbody.schemas e he t ht)
  exact ((Distributed.empty c).addAll body hbody.nodup hschemas).partitions hbody.nodup hschemas

/-- A document with a named schema. -/
def tagged : Json :=
  .object [("components", .object [("schemas", .object [
    ("Tag", .object [("type", .string "object"), ("properties", .object [
      ("id", .object [("type", .string "integer")]), ("word", .object [])])])])])]

/-- A request body in which media types with equal schemas, forms and media types without a schema
alternate. -/
def mixed : Json :=
  let word := ("word", Json.object [])
  let id := ("id", Json.object [("type", .string "integer")])
  let withSchema (s : Json) : Json := .object [("schema", s)]
  .object [("content", .object [
    ("application/json", withSchema (.object [("$ref", .string "#/components/schemas/Tag")])),
    ("multipart/form-data", withSchema (.object [("type", .string "string")])),
    ("application/octet-stream", .object []),
    ("application/x-www-form-urlencoded",
      withSchema (.object [("type", .string "object"), ("properties", .object [word])])),
    ("application/xml",
      withSchema (.object [("type", .string "object"), ("properties", .object [word, id])])),
    ("text/plain", .object []),
    ("text/csv", withSchema (.object [("type", .string "string")]))])]

theorem partitions_mixed : ∃ d body, Document.ofJson? tagged = some d ∧
    RequestBodyObject.read? (.ofJson mixed) = some body ∧
    Partitions ⟨{}, .neutral false, d⟩ body.content (ofBody ⟨{}, .neutral false, d⟩ body).value ∧
    (ofBody ⟨{}, .neutral false, d⟩ body).value.contents.map (·.contentTypes) =
      [["application/json", "application/xml"], ["application/octet-stream", "text/plain"],
        ["application/x-www-form-urlencoded"], ["text/csv"]] := by
  have hrun : ((Document.ofJson? tagged).bind fun d =>
      (RequestBodyObject.read? (.ofJson mixed)).map fun body =>
        (ofBody ⟨{}, .neutral false, d⟩ body).value.contents.map (·.contentTypes)) =
      some [["application/json", "application/xml"], ["application/octet-stream", "text/plain"],
        ["application/x-www-form-urlencoded"], ["text/csv"]] := by decide +kernel
  obtain ⟨d, hd, hrun⟩ := Option.bind_eq_some_iff.mp hrun
  obtain ⟨body, hbody, hrun⟩ := Option.map_eq_some_iff.mp hrun
  exact ⟨d, body, hd, hbody, partitions_ofBody (Document.distinctInside_of_read? hd)
    (RequestBodyObject.distinct_of_read? hbody), hrun⟩

end Request
end ApiResolution
