import ApiResolution.Proofs.Document.Operations
import ApiResolution.Proofs.Entries
import ApiResolution.Proofs.Identifier.NextName
import ApiResolution.Proofs.Pointwise

/-!
Filing operations in buckets. One filing appends a copy of the operation to one bucket, under a name
that no operation of the bucket has (`filed_add`); so a run of filings only ever extends the buckets,
and each of them holds copies of what was filed there, in order (`exists_filed_fileAll`). The buckets
of a document are such a run over its operations (`value_addDeclared`), and `filing_ofDocument` says
what they hold.
-/

namespace ApiResolution

/-- The names of the buckets in which a declared operation lies. -/
def DeclaredOperation.bucketNames (v : Conventions) (x : DeclaredOperation) : List String :=
  if x.declared.tags.isEmpty then [Buckets.commonName] else x.declared.tags.map v.tagName

/-- What a declaration is made into. -/
def DeclaredOperation.built (c : Context) (models : ModelMap) (x : DeclaredOperation) :
    Except Failure Operation :=
  (Operation.ofDeclaration c models x.path x.method x.pathParameters x.declared).value

/-- Whether two operations differ in their names at most. -/
def Operation.CopyOf (x o : Operation) : Prop := x = { o with operationId := x.operationId }

theorem Operation.CopyOf.place {x o : Operation} (h : x.CopyOf o) : x.place = o.place := by
  rw [h]
  rfl

theorem Operation.CopyOf.copyOf {x y o : Operation} (hx : x.CopyOf o) (hy : y.CopyOf o) :
    x.CopyOf y := by
  rw [Operation.CopyOf, hy]
  exact hx

namespace Operation

/-- Its responses leave the place, the tags and the name of an operation as they are. -/
theorem withAnswers_spec (c : Context) (models : ModelMap) (answers : List Answer)
    (start : Operation) :
    (withAnswers c models answers start).place = start.place ∧
      (withAnswers c models answers start).tags = start.tags ∧
      (withAnswers c models answers start).operationId = start.operationId := by
  unfold withAnswers
  dsimp only
  split <;> exact ⟨rfl, rfl, rfl⟩

theorem named_spec (c : Context) (models : ModelMap) (path : String) (method : HttpMethod)
    (ofPath : List (OrReference ParameterObject)) (d : OperationObject) (name : String) :
    let made := (named c models path method ofPath d name).value
    made.place = (path, method) ∧ made.tags = d.tags ∧ made.operationId = name := by
  obtain ⟨hplace, htags, hid⟩ := withAnswers_spec c models (answersOf c d).value _
  exact ⟨hplace, htags, hid⟩

end Operation

/-- An operation has the place and the tags of its declaration, and the name that is made for it. -/
theorem DeclaredOperation.of_built {c : Context} {models : ModelMap} {x : DeclaredOperation}
    {o : Operation} (h : x.built c models = .ok o) :
    o.place = x.place ∧ o.tags = x.declared.tags ∧
      (Operation.nameOf c x.path x.method x.declared).value = .ok o.operationId := by
  unfold DeclaredOperation.built Operation.ofDeclaration at h
  rw [Noted.value_bind] at h
  cases hname : (Operation.nameOf c x.path x.method x.declared).value with
  | error failure =>
    rw [hname] at h
    exact absurd h (by simp)
  | ok name =>
    rw [hname] at h
    obtain rfl := Except.ok.inj h
    obtain ⟨hplace, htags, hid⟩ :=
      Operation.named_spec c models x.path x.method x.pathParameters x.declared name
    exact ⟨hplace, htags, congrArg Except.ok hid.symm⟩

namespace Buckets

/-! ## Free names -/

/-- A name with a number. -/
def numbered (name : String) (k : Nat) : String := name ++ "_" ++ toString k

theorem injective_numbered (name : String) : Function.Injective (numbered name) := by
  intro j k h
  have hlist := congrArg String.toList h
  simp only [numbered, String.toList_append] at hlist
  have hdigits := List.append_cancel_left hlist
  rw [Nat.toString_eq_ofList_toDigits, Nat.toString_eq_ofList_toDigits, String.toList_ofList,
    String.toList_ofList] at hdigits
  have hnumber := congrArg Identifier.numberOf hdigits
  rwa [Identifier.numberOf, Identifier.numberOf, Nat.ofDigitChars_ten_toDigits,
    Nat.ofDigitChars_ten_toDigits] at hnumber

/-- A search that ends at a taken name has met taken names only. -/
theorem mem_of_numberedFrom_mem {taken : List String} {name : String} {rest k : Nat}
    (h : numberedFrom taken name rest k ∈ taken) : ∀ i ≤ rest, numbered name (k + i) ∈ taken := by
  induction rest generalizing k with
  | zero =>
    intro i hi
    rw [Nat.le_zero.mp hi]
    exact h
  | succ rest ih =>
    intro i hi
    rw [numberedFrom] at h
    split at h
    · next hk =>
      cases i with
      | zero => exact List.contains_iff_mem.mp hk
      | succ i =>
        have hnext := ih h i (Nat.le_of_succ_le_succ hi)
        rwa [Nat.add_right_comm k 1 i] at hnext
    · next hk => exact absurd (List.contains_iff_mem.mpr h) hk

/-- The name that an operation gets is free. -/
theorem freeName_not_mem (taken : List String) (name : String) : freeName taken name ∉ taken := by
  intro h
  unfold freeName at h
  split at h
  · have hall := mem_of_numberedFrom_mem h
    have hinj : Function.Injective fun k => numbered name (1 + k) :=
      (injective_numbered name).comp (add_right_injective 1)
    obtain ⟨k, hk, hfree⟩ := Identifier.exists_not_mem_of_injective hinj taken
    exact hfree (hall k hk)
  · next hname => exact hname (List.contains_iff_mem.mpr h)

/-- A free name is kept. -/
theorem freeName_of_not_mem {taken : List String} {name : String} (h : name ∉ taken) :
    freeName taken name = name :=
  if_neg fun hname => h (List.contains_iff_mem.mp hname)

/-! ## One filing -/

/-- The operations in a bucket. -/
def filed (buckets : Buckets) (name : String) : List Operation :=
  (Entries.lookup? name buckets).getD []

/-- The names of operations. -/
def ids (os : List Operation) : List String := os.map (·.operationId)

/-- The operation under the name that it gets beside others. -/
def beside (before : List Operation) (o : Operation) : Operation :=
  { o with operationId := freeName (ids before) o.operationId }

theorem copyOf_beside (before : List Operation) (o : Operation) : (beside before o).CopyOf o := rfl

theorem nodup_ids_beside {before : List Operation} (h : (ids before).Nodup) (o : Operation) :
    (ids (before ++ [beside before o])).Nodup := by
  have hfree : (beside before o).operationId ∉ ids before := freeName_not_mem _ _
  rw [ids, List.map_append]
  exact List.nodup_append_comm.mp (List.nodup_cons.mpr ⟨hfree, h⟩)

/-- Filing appends a copy of the operation to the bucket. -/
theorem value_add (buckets : Buckets) (name : String) (o : Operation) :
    (add buckets name o).value =
      Entries.insert name (filed buckets name ++ [beside (filed buckets name) o]) buckets := by
  unfold add
  dsimp only
  split <;> rfl

/-- Filing changes the one bucket only. -/
theorem filed_add (buckets : Buckets) (name bucket : String) (o : Operation) :
    filed (add buckets bucket o).value name =
      if bucket = name then filed buckets name ++ [beside (filed buckets name) o]
      else filed buckets name := by
  rw [value_add]
  split
  · next heq =>
    rw [heq]
    unfold filed
    rw [Entries.lookup?_insert_self, Option.getD_some]
  · next hne =>
    unfold filed
    rw [Entries.lookup?_insert_of_ne (Ne.symm hne)]

theorem filed_of_mem {buckets : Buckets} (hn : (Entries.keys buckets).Nodup)
    {e : String × List Operation} (he : e ∈ buckets) : filed buckets e.1 = e.2 := by
  rw [filed, Entries.lookup?_of_mem hn he, Option.getD_some]

theorem mem_of_mem_filed {buckets : Buckets} {name : String} {o : Operation}
    (h : o ∈ filed buckets name) : (name, filed buckets name) ∈ buckets := by
  unfold filed at h ⊢
  cases hl : Entries.lookup? name buckets with
  | none => simp [hl] at h
  | some os => exact Entries.mem_of_lookup? hl

/-- The buckets are named apart, and so are the operations in each of them. -/
structure NamedApart (buckets : Buckets) : Prop where
  keys : (Entries.keys buckets).Nodup
  ids : ∀ name, (ids (filed buckets name)).Nodup

theorem NamedApart.nil : NamedApart [] := ⟨List.nodup_nil, fun _ => List.nodup_nil⟩

theorem NamedApart.add {buckets : Buckets} (h : NamedApart buckets) (bucket : String)
    (o : Operation) : NamedApart (add buckets bucket o).value where
  keys := by
    rw [value_add]
    exact Entries.nodup_keys_insert _ _ h.keys
  ids name := by
    rw [filed_add]
    split
    · exact nodup_ids_beside (h.ids name) o
    · exact h.ids name

/-! ## A run of filings -/

/-- Files operations in order, each in the bucket of the name beside it. -/
def fileAll (filings : List (String × Operation)) (buckets : Buckets) : Buckets :=
  filings.foldl (fun acc f => (add acc f.1 f.2).value) buckets

theorem fileAll_append (before after : List (String × Operation)) (buckets : Buckets) :
    fileAll (before ++ after) buckets = fileAll after (fileAll before buckets) :=
  List.foldl_append

/-- The operations that are filed in a bucket. -/
def filedIn (name : String) (filings : List (String × Operation)) : List Operation :=
  (filings.filter fun f => f.1 = name).map (·.2)

theorem NamedApart.fileAll {buckets : Buckets} (h : NamedApart buckets)
    (filings : List (String × Operation)) : NamedApart (fileAll filings buckets) := by
  induction filings generalizing buckets with
  | nil => exact h
  | cons f filings ih => exact ih (h.add f.1 f.2)

/-- A run of filings extends each bucket by copies of what is filed there. -/
theorem exists_filed_fileAll (filings : List (String × Operation)) (buckets : Buckets)
    (name : String) : ∃ later, filed (fileAll filings buckets) name = filed buckets name ++ later ∧
      List.Forall₂ Operation.CopyOf later (filedIn name filings) := by
  induction filings generalizing buckets with
  | nil => exact ⟨[], (List.append_nil _).symm, .nil⟩
  | cons f filings ih =>
    obtain ⟨later, hlater, hcopies⟩ := ih (add buckets f.1 f.2).value
    rw [filed_add] at hlater
    by_cases hf : f.1 = name
    · rw [if_pos hf, List.append_assoc, List.singleton_append] at hlater
      refine ⟨_, hlater, ?_⟩
      rw [filedIn, List.filter_cons_of_pos (by simpa using hf), List.map_cons]
      exact .cons (copyOf_beside _ f.2) hcopies
    · rw [if_neg hf] at hlater
      refine ⟨_, hlater, ?_⟩
      rwa [filedIn, List.filter_cons_of_neg (by simpa using hf)]

/-- A bucket holds copies of what was filed there. -/
theorem forall₂_filed_fileAll (filings : List (String × Operation)) (name : String) :
    List.Forall₂ Operation.CopyOf (filed (fileAll filings []) name) (filedIn name filings) := by
  obtain ⟨later, hlater, hcopies⟩ := exists_filed_fileAll filings [] name
  rwa [hlater]

/-- What a filing puts into its bucket stays there, behind what was there before. -/
theorem exists_filed_fileAll_append (before after : List (String × Operation)) (name : String)
    (o : Operation) : ∃ later,
      filed (fileAll (before ++ (name, o) :: after) []) name =
        filed (fileAll before []) name ++ beside (filed (fileAll before []) name) o :: later := by
  have hrun : fileAll (before ++ (name, o) :: after) [] =
      fileAll after (add (fileAll before []) name o).value :=
    fileAll_append before ((name, o) :: after) []
  obtain ⟨later, hlater, -⟩ := exists_filed_fileAll after (add (fileAll before []) name o).value name
  rw [filed_add, if_pos rfl, List.append_assoc, List.singleton_append] at hlater
  exact ⟨later, by rw [hrun, hlater]⟩

/-! ## The filings of a document -/

/-- What is filed for operations: each of them in all of its buckets. -/
def filings (v : Conventions) (os : List Operation) : List (String × Operation) :=
  os.flatMap fun o => (namesOf v o).map (·, o)

theorem filings_cons (v : Conventions) (o : Operation) (os : List Operation) :
    filings v (o :: os) = (namesOf v o).map (·, o) ++ filings v os :=
  List.flatMap_cons

theorem value_addToAll (o : Operation) (names : List String) (buckets : Buckets) :
    (addToAll o names buckets).value = fileAll (names.map (·, o)) buckets := by
  induction names generalizing buckets with
  | nil => rfl
  | cons name names ih =>
    rw [addToAll, Noted.value_bind, ih]
    rfl

/-- The buckets of declarations are a run of filings, if no declaration fails. -/
theorem value_addDeclared (c : Context) (models : ModelMap) (xs : List DeclaredOperation)
    (buckets : Buckets) :
    (addDeclared c models xs buckets).value =
      (xs.mapM (DeclaredOperation.built c models)).map fun os =>
        fileAll (filings c.conventions os) buckets := by
  induction xs generalizing buckets with
  | nil => rfl
  | cons x xs ih =>
    have hbuilt : (Operation.ofDeclaration c models x.path x.method x.pathParameters
        x.declared).value = x.built c models := rfl
    rw [addDeclared, Noted.value_bind, hbuilt, List.mapM_cons]
    cases x.built c models with
    | error failure => rfl
    | ok o =>
      dsimp only
      rw [Noted.value_bind, ih, value_addToAll]
      cases xs.mapM (DeclaredOperation.built c models) with
      | error failure => rfl
      | ok os =>
        change Except.ok _ = Except.ok (fileAll (filings c.conventions (o :: os)) buckets)
        rw [filings_cons, fileAll_append]

end Buckets
end ApiResolution
