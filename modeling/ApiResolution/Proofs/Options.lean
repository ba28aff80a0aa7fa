import ApiResolution.Options
import ApiResolution.Proofs.Yaml.Records

/-!
The two ways to options. A record of options and named values agree on every object in which each
option has a value of its type, whatever else stands there and in whatever order, except for the
empty name of a library: a record keeps it, and among named values it selects no library
(`record_agrees_with_values`). Both are the options named by the object (`Options.named`), once with
every name of a library and once with the empty one left out.
-/

namespace ApiResolution
namespace Options

open Yaml (Slot)

/-- The options of an object have values of their types. -/
structure Typed (ms : Entries Json) : Prop where
  flag : ∀ m ∈ ms, m.1 ∈ names → m.1 ≠ "library" → ∃ b, m.2 = .bool b
  library : ∀ m ∈ ms, m.1 = "library" → m.2 = .null ∨ ∃ s, m.2 = .string s

theorem Typed.of_cons {m : String × Json} {ms : Entries Json} (h : Typed (m :: ms)) : Typed ms where
  flag := fun m' hm' => h.flag m' (List.mem_cons_of_mem m hm')
  library := fun m' hm' => h.library m' (List.mem_cons_of_mem m hm')

/-! ## Named options -/

/-- The truth value under a name, or the one before. -/
def flagUnder (ms : Entries Json) (name : String) (before : Bool) : Bool :=
  match Entries.lookup? name ms with
  | some (.bool b) => b
  | _ => before

/-- The library that an object selects by a text, or the one before. -/
def libraryUnder (select : String → Option String) (ms : Entries Json) (before : Option String) :
    Option String :=
  match Entries.lookup? "library" ms with
  | some (.string s) => select s
  | some .null => none
  | _ => before

/-- The options that an object names; the others stay as they are. -/
def named (select : String → Option String) (o : Options) (ms : Entries Json) : Options where
  supportsInheritance := flagUnder ms "supportsInheritance" o.supportsInheritance
  supportsMixins := flagUnder ms "supportsMixins" o.supportsMixins
  sortParamsByRequired := flagUnder ms "sortParamsByRequiredFlag" o.sortParamsByRequired
  ensureUniqueParams := flagUnder ms "ensureUniqueParams" o.ensureUniqueParams
  allowUnicodeIdentifiers := flagUnder ms "allowUnicodeIdentifiers" o.allowUnicodeIdentifiers
  removeOperationIdPrefix := flagUnder ms "removeOperationIdPrefix" o.removeOperationIdPrefix
  checkDuplicatedModelName := flagUnder ms "checkDuplicatedModelName" o.checkDuplicatedModelName
  library := libraryUnder select ms o.library

/-- The text, unless it is empty. -/
def nonempty? (s : String) : Option String := if s.isEmpty then none else some s

variable {ms rest : Entries Json} {o : Options}

/-! ## Named values -/

/-- One value of its type is applied, and those behind it name the other options. -/
theorem set_eq_ok {name : String} {value : Json} (ht : Typed ((name, value) :: rest))
    (hname : name ∉ Entries.keys rest) (o : Options) :
    ∃ o', o.set name value = .ok o' ∧
      named nonempty? o' rest = named nonempty? o ((name, value) :: rest) := by
  have hnone : Entries.lookup? name rest = none := Entries.lookup?_eq_none_iff.mpr hname
  have hflag : name ∈ names → name ≠ "library" → ∃ b, value = .bool b :=
    ht.flag _ List.mem_cons_self
  have hlibrary : name = "library" → value = .null ∨ ∃ s, value = .string s :=
    ht.library _ List.mem_cons_self
  unfold set
  split
  -- The eighth name is that of the library, and then come the names that are no options.
  case h_8 =>
    rcases hlibrary rfl with rfl | ⟨s, rfl⟩
    · refine ⟨_, rfl, ?_⟩
      simp [named, flagUnder, libraryUnder, Entries.lookup?_cons, hnone]
    · refine ⟨_, rfl, ?_⟩
      simp [named, flagUnder, libraryUnder, nonempty?, Entries.lookup?_cons, hnone]
  case h_9 =>
    refine ⟨o, rfl, ?_⟩
    simp_all [named, flagUnder, libraryUnder, Entries.lookup?_cons]
  -- The other seven are flags.
  all_goals
    obtain ⟨b, rfl⟩ := hflag (by decide) (by decide)
    refine ⟨_, rfl, ?_⟩
    simp [named, flagUnder, libraryUnder, Entries.lookup?_cons, hnone]

/-- Values of their types are all applied. -/
theorem applyEach_eq (hn : (Entries.keys ms).Nodup) (ht : Typed ms) (o : Options) :
    o.applyEach ms = (named nonempty? o ms, none) := by
  induction ms generalizing o with
  | nil => rfl
  | cons m ms ih =>
    obtain ⟨name, value⟩ := m
    obtain ⟨hname, hrest⟩ := List.nodup_cons.mp hn
    obtain ⟨o', hset, hnamed⟩ := set_eq_ok ht hname o
    rw [applyEach, hset]
    dsimp only
    rw [ih hrest ht.of_cons o', hnamed]

theorem ofValues_eq_ok (hn : (Entries.keys ms).Nodup) (ht : Typed ms) :
    ofValues ms = .ok (named nonempty? {} ms) := by
  rw [ofValues, apply, applyEach_eq hn ht]

/-! ## Records -/

theorem field?_flag {name : String} (ht : Typed ms) (hname : name ∈ names)
    (hne : name ≠ "library") (missing : Bool) :
    Source.field? (Entries.mapValues Source.ofJson ms) name missing Source.bool? =
      some (flagUnder ms name missing) := by
  unfold flagUnder
  cases hfound : Entries.lookup? name ms with
  | none => exact Source.field?_of_lookup?_eq_none hfound
  | some value =>
    obtain ⟨b, hb⟩ := ht.flag _ (Entries.mem_of_lookup? hfound) hname hne
    obtain rfl : value = .bool b := hb
    exact Source.field?_ofJson hfound rfl

theorem optionalField?_library (ht : Typed ms) :
    Source.optionalField? (Entries.mapValues Source.ofJson ms) "library" Source.string? =
      some (libraryUnder some ms none) := by
  unfold libraryUnder
  cases hfound : Entries.lookup? "library" ms with
  | none => exact Source.field?_of_lookup?_eq_none hfound
  | some value =>
    rw [Source.optionalField?, Source.field?, Entries.lookup?_mapValues, hfound]
    have hvalue : value = .null ∨ ∃ s, value = .string s :=
      ht.library _ (Entries.mem_of_lookup? hfound) rfl
    rcases hvalue with rfl | ⟨s, rfl⟩
    · rfl
    · rfl

/-- A record of options is read as the options that the object names. -/
theorem read?_ofJson (hn : (Entries.keys ms).Nodup) (ht : Typed ms) :
    read? (.ofJson (.object ms)) = some (named some {} ms) := by
  have hflag : ∀ name ∈ names, name ≠ "library" → ∀ missing,
      Source.field? (Entries.mapValues Source.ofJson ms) name missing Source.bool? =
        some (flagUnder ms name missing) :=
    fun name hname hne missing => field?_flag ht hname hne missing
  rw [read?, Source.record?_ofJson names hn]
  simp only [Option.bind_eq_bind, Option.bind_some]
  rw [hflag _ (by decide) (by decide), Option.bind_some, hflag _ (by decide) (by decide),
    Option.bind_some, hflag _ (by decide) (by decide), Option.bind_some,
    hflag _ (by decide) (by decide), Option.bind_some, hflag _ (by decide) (by decide),
    Option.bind_some, hflag _ (by decide) (by decide), Option.bind_some,
    hflag _ (by decide) (by decide), Option.bind_some, optionalField?_library ht]
  rfl

/-! ## Configuration files -/

/-- What is read under the name of an option. -/
def place (name : String) : Slot := if name = "library" then .optional .text else .flag

/-- The places of the options under their names. -/
def places : Entries Slot := names.map fun name => (name, place name)

theorem slot_eq : slot = .record places := rfl

theorem keys_places : Entries.keys places = names := rfl

/-- Values of their types are read at the places of the options. -/
theorem readsScalar (ht : Typed ms) :
    ∀ m ∈ ms, ∀ found, Entries.lookup? m.1 places = some found → found.ReadsScalar m.2 := by
  intro m hm found hfound
  obtain ⟨name, hname, heq⟩ := List.mem_map.mp (Entries.mem_of_lookup? hfound)
  obtain ⟨hkey, rfl⟩ := Prod.mk.inj heq
  unfold place
  by_cases hlibrary : name = "library"
  · rw [if_pos hlibrary]
    rcases ht.library m hm (hkey ▸ hlibrary) with hvalue | ⟨s, hvalue⟩
    · rw [hvalue]
      exact ⟨_, rfl, rfl⟩
    · rw [hvalue]
      exact ⟨_, rfl, rfl⟩
  · rw [if_neg hlibrary]
    obtain ⟨b, hvalue⟩ := ht.flag m hm (hkey ▸ hname) (hkey ▸ hlibrary)
    rw [hvalue]
    refine ⟨_, rfl, ?_⟩
    cases b <;> rfl

theorem named_filter (select : String → Option String) (o : Options) (ms : Entries Json) :
    named select o (ms.filter fun m => Entries.contains m.1 places) = named select o ms := by
  have hlookup : ∀ name ∈ names, Entries.lookup? name
      (ms.filter fun m => Entries.contains m.1 places) = Entries.lookup? name ms := by
    intro name hname
    have hknown : Entries.contains name places = true := by
      rwa [Entries.contains_iff, keys_places]
    exact Entries.lookup?_filter (p := fun key => Entries.contains key places) hknown ms
  simp only [named, flagUnder, libraryUnder]
  rw [hlookup "supportsInheritance" (by decide), hlookup "supportsMixins" (by decide),
    hlookup "sortParamsByRequiredFlag" (by decide), hlookup "ensureUniqueParams" (by decide),
    hlookup "allowUnicodeIdentifiers" (by decide), hlookup "removeOperationIdPrefix" (by decide),
    hlookup "checkDuplicatedModelName" (by decide), hlookup "library" (by decide)]

/-- A configuration file that writes an object is read as the options that the object names. -/
theorem parse_eq_ok (hn : (Entries.keys ms).Nodup) (ht : Typed ms) {text : String}
    (hblank : (Text.trim text).isEmpty = false)
    (htext : Yaml.parse? text = some (.ofJson (.object ms))) :
    parse text = .ok (named some {} ms) := by
  have hknown : (Entries.keys (ms.filter fun m => Entries.contains m.1 places)).Nodup :=
    hn.sublist (List.Sublist.map _ List.filter_sublist)
  have htyped : Typed (ms.filter fun m => Entries.contains m.1 places) :=
    ⟨fun m hm => ht.flag m (List.mem_of_mem_filter hm),
      fun m hm => ht.library m (List.mem_of_mem_filter hm)⟩
  rw [parse, hblank, if_neg Bool.false_ne_true, Slot.readText?, htext, Option.bind_some, slot_eq,
    Yaml.readNode?_record (readsScalar ht), Option.bind_some, read?_ofJson hknown htyped,
    named_filter]

/-! ## Agreement -/

/-- Leaving out the empty text makes a difference only where the library is the empty text. -/
theorem named_eq_named (hlibrary : Entries.lookup? "library" ms ≠ some (.string "")) :
    named some o ms = named nonempty? o ms := by
  have hselect : libraryUnder some ms o.library = libraryUnder nonempty? ms o.library := by
    unfold libraryUnder
    split
    · next s hs =>
      rw [nonempty?, if_neg]
      intro hempty
      rw [String.isEmpty_iff.mp hempty] at hs
      exact hlibrary hs
    · rfl
    · rfl
  unfold named
  rw [hselect]

theorem named_of_empty (hlibrary : Entries.lookup? "library" ms = some (.string "")) :
    (named some o ms).library = some "" ∧
      named nonempty? o ms = { named some o ms with library := none } := by
  simp [named, libraryUnder, nonempty?, hlibrary]

/-- An object with values of their types is read as options, a configuration file that writes it is
read as the same ones, and its members are all applied as named values. The two ways give the same
options, and the same libraries are refused, except for the empty name of a library, which only a
record keeps. -/
theorem record_agrees_with_values (hn : (Entries.keys ms).Nodup) (ht : Typed ms) :
    ∃ o o', ofJson? (.object ms) = some o ∧
      (∀ text, (Text.trim text).isEmpty = false →
        Yaml.parse? text = some (.ofJson (.object ms)) → parse text = .ok o) ∧
      ofValues ms = .ok o' ∧
      (Entries.lookup? "library" ms ≠ some (.string "") →
        o = o' ∧ ∀ supported, o.checkLibrary supported = o'.checkLibrary supported) ∧
      (Entries.lookup? "library" ms = some (.string "") →
        o.library = some "" ∧ o' = { o with library := none }) := by
  refine ⟨named some {} ms, named nonempty? {} ms, read?_ofJson hn ht,
    fun text hblank htext => parse_eq_ok hn ht hblank htext, ofValues_eq_ok hn ht, ?_,
    named_of_empty⟩
  intro hlibrary
  rw [named_eq_named hlibrary]
  exact ⟨rfl, fun _ => rfl⟩

/-- A flag, a library and a member that is no option. -/
def feignValues : Entries Json :=
  [("supportsMixins", .bool true), ("rest", .array []), ("library", .string "feign")]

/-- A configuration file that writes these values. -/
def feignFile : String :=
  "\x7b\"supportsMixins\": true, \"rest\": [], \"library\": \"feign\"\x7d"

/-- The values as an object, in a configuration file and one after the other. -/
theorem record_agrees_with_values_feign :
    ∃ o : Options, o.supportsMixins = true ∧ o.library = some "feign" ∧
      ofJson? (.object feignValues) = some o ∧ parse feignFile = .ok o ∧
      ofValues feignValues = .ok o := by
  have htyped : Typed feignValues := ⟨by simp [feignValues, names], by simp [feignValues]⟩
  have htokens : Yaml.tokens? feignFile =
      some [.flowMappingStart, .key, .scalar .quoted "supportsMixins", .value,
        .scalar .plain "true", .flowEntry, .key, .scalar .quoted "rest", .value, .flowSequenceStart,
        .flowSequenceEnd, .flowEntry, .key, .scalar .quoted "library", .value,
        .scalar .quoted "feign", .flowMappingEnd, .streamEnd] := by
    decide +kernel
  have hdistinct : (Entries.keys feignValues).Nodup := by decide
  obtain ⟨o, o', hrecord, hfile, hvalues, hsame, -⟩ := record_agrees_with_values hdistinct htyped
  have hread : ofJson? (.object feignValues) =
      some { supportsMixins := true, library := some "feign" } := by decide +kernel
  obtain rfl := Option.some.inj (hread.symm.trans hrecord)
  obtain ⟨rfl, -⟩ := hsame (by simp [feignValues, Entries.lookup?_cons])
  refine ⟨_, rfl, rfl, hrecord, hfile feignFile (by decide +kernel) ?_, hvalues⟩
  rw [Yaml.parse?, htokens]
  rfl

/-- The empty name of a library: a record keeps it, so that it may be refused; among named values it
selects no library. -/
theorem record_differs_from_values_emptyLibrary :
    ofJson? (.object [("library", .string "")]) = some { library := some "" } ∧
    ofValues [("library", .string "")] = .ok {} ∧
    checkLibrary { library := some "" } ["feign"] = .error (.unknownLibrary "" ["feign"]) ∧
    checkLibrary {} ["feign"] = .ok () :=
  ⟨by decide +kernel, rfl, rfl, rfl⟩

end Options
end ApiResolution
