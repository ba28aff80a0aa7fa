import ApiResolution.Conventions
import ApiResolution.Proofs.Number.Text

/-!
The literals of enum values. A text is quoted and escaped, so reading the escapes gives it back
(`readEscaped?_escape`). A list or an object is quoted as it is written, and the first mark in what
is written is never a backslash (`MarkedByQuote.text`); the first mark of an escaped text is always
one. So a text has the literal of a list or an object only if it spells that value, and all other
values with different texts have different literals (`enumValueLiteral_separates`).
-/

namespace ApiResolution

/-! ## Marks -/

/-- The characters that are escaped between quotes. -/
def isMark (c : Char) : Bool := c == '\\' || c == '"'

/-- No mark stands in a text. -/
def Unmarked (cs : List Char) : Prop := ∀ c ∈ cs, isMark c = false

instance (cs : List Char) : Decidable (Unmarked cs) :=
  decidable_of_iff (cs.all (fun c => !isMark c) = true) (by simp [Unmarked])

theorem find?_isMark_eq_none_iff {cs : List Char} : cs.find? isMark = none ↔ Unmarked cs := by
  simp [Unmarked]

/-- A character with a backslash before it if it is a mark. -/
def escapeMark (c : Char) : List Char := if isMark c then ['\\', c] else [c]

/-- The text behind escapes. A mark without a backslash, a backslash before anything else and one at
the end make the reading fail. -/
def readEscaped? : List Char → Option (List Char)
  | [] => some []
  | ['\\'] => none
  | '\\' :: c :: cs => if isMark c then (readEscaped? cs).map (c :: ·) else none
  | c :: cs => if isMark c then none else (readEscaped? cs).map (c :: ·)

theorem readEscaped?_cons {c : Char} (hc : isMark c = false) (cs : List Char) :
    readEscaped? (c :: cs) = (readEscaped? cs).map (c :: ·) := by
  have hne : c ≠ '\\' := by
    rintro rfl
    exact absurd hc (by decide)
  rw [readEscaped?, if_neg (by simp [hc])]
  · intro h
    exact absurd h hne
  · intro d ds h
    exact absurd h hne

theorem readEscaped?_cons_cons {c : Char} (hc : isMark c = true) (cs : List Char) :
    readEscaped? ('\\' :: c :: cs) = (readEscaped? cs).map (c :: ·) := by
  rw [readEscaped?, if_pos hc]

/-- Reading the escapes of a text gives it back. -/
theorem readEscaped?_escape (cs : List Char) : readEscaped? (cs.flatMap escapeMark) = some cs := by
  induction cs with
  | nil => rfl
  | cons c cs ih =>
    rw [List.flatMap_cons, escapeMark]
    cases hc : isMark c with
    | true =>
      rw [if_pos rfl, List.cons_append, List.singleton_append, readEscaped?_cons_cons hc, ih,
        Option.map_some]
    | false =>
      rw [if_neg Bool.false_ne_true, List.singleton_append, readEscaped?_cons hc, ih,
        Option.map_some]

/-- A text without marks is its own escaped form. -/
theorem escape_eq_self {cs : List Char} (h : Unmarked cs) :
    cs.flatMap escapeMark = cs := by
  induction cs with
  | nil => rfl
  | cons c cs ih =>
    obtain ⟨hc, hcs⟩ := List.forall_mem_cons.mp h
    rw [List.flatMap_cons, ih hcs, escapeMark, hc, if_neg Bool.false_ne_true]
    rfl

theorem isMark_of_isNumeral {c : Char} (h : isNumeral c = true) : isMark c = false := by
  have hbackslash : c ≠ '\\' := by
    rintro rfl
    exact absurd h (by decide)
  have hquote : c ≠ '"' := by
    rintro rfl
    exact absurd h (by decide)
  simp [isMark, hbackslash, hquote]

theorem toList_escapeQuoted (s : String) :
    (escapeQuoted s).toList = s.toList.flatMap escapeMark := by
  rw [escapeQuoted, String.toList_ofList]
  congr
  funext c
  simp [escapeMark, isMark]

theorem toList_betweenQuotes (s : String) :
    (betweenQuotes s).toList = '"' :: s.toList ++ ['"'] := by
  rw [betweenQuotes, String.toList_append, String.toList_append]
  rfl

theorem betweenQuotes_inj {s t : String} (h : betweenQuotes s = betweenQuotes t) : s = t := by
  have hlist := congrArg String.toList h
  rw [toList_betweenQuotes, toList_betweenQuotes] at hlist
  exact String.toList_inj.mp (List.append_cancel_right (List.cons.inj hlist).2)

/-! ## The first mark -/

/-- The first mark of a text, if there is one, is a quote. -/
def MarkedByQuote (cs : List Char) : Prop := cs.find? isMark ≠ some '\\'

instance (cs : List Char) : Decidable (MarkedByQuote cs) :=
  inferInstanceAs (Decidable (cs.find? isMark ≠ some '\\'))

namespace MarkedByQuote

theorem append {cs ds : List Char} (hcs : MarkedByQuote cs) (hds : MarkedByQuote ds) :
    MarkedByQuote (cs ++ ds) := by
  unfold MarkedByQuote
  rw [List.find?_append]
  cases hfound : cs.find? isMark with
  | none => exact hds
  | some c => exact fun h => hcs (hfound.trans h)

theorem of_unmarked {cs : List Char} (h : Unmarked cs) : MarkedByQuote cs := by
  unfold MarkedByQuote
  rw [find?_isMark_eq_none_iff.mpr h]
  simp

theorem quote (s : String) : MarkedByQuote (Json.quote s).toList := by
  unfold MarkedByQuote
  rw [Json.quote, String.toList_ofList]
  exact fun h => absurd (Option.some.inj h) (by decide)

theorem intercalate {sep : List Char} (hsep : MarkedByQuote sep) {parts : List (List Char)}
    (h : ∀ part ∈ parts, MarkedByQuote part) : MarkedByQuote (sep.intercalate parts) := by
  induction parts with
  | nil => exact of_unmarked (by simp [Unmarked])
  | cons part parts ih =>
    obtain ⟨hpart, hparts⟩ := List.forall_mem_cons.mp h
    cases parts with
    | nil => simpa using hpart
    | cons next parts =>
      rw [List.intercalate_cons_cons]
      exact (hpart.append hsep).append (ih hparts)

mutual

/-- The text of a value has no backslash before its first quote. -/
theorem text : ∀ v : Json, MarkedByQuote v.text.toList
  | .null => by decide
  | .bool b => by cases b <;> decide
  | .number n => of_unmarked fun c hc => isMark_of_isNumeral (n.numeral_text c hc)
  | .string s => quote s
  | .array xs => by
    rw [Json.text, String.toList_append, String.toList_append, String.toList_intercalate]
    refine (append (by decide) (intercalate (by decide) ?_)).append (by decide)
    exact List.forall_mem_map.mpr (itemTexts xs)
  | .object ms => by
    rw [Json.text, String.toList_append, String.toList_append, String.toList_intercalate]
    refine (append (by decide) (intercalate (by decide) ?_)).append (by decide)
    exact List.forall_mem_map.mpr (memberTexts ms)

theorem itemTexts : ∀ xs, ∀ t ∈ Json.itemTexts xs, MarkedByQuote t.toList
  | [] => by simp [Json.itemTexts]
  | x :: xs => by
    rw [Json.itemTexts]
    exact List.forall_mem_cons.mpr ⟨text x, itemTexts xs⟩

theorem memberTexts : ∀ ms, ∀ t ∈ Json.memberTexts ms, MarkedByQuote t.toList
  | [] => by simp [Json.memberTexts]
  | (k, v) :: ms => by
    rw [Json.memberTexts]
    refine List.forall_mem_cons.mpr ⟨?_, memberTexts ms⟩
    rw [String.toList_append, String.toList_append]
    exact ((quote k).append (by decide)).append (text v)

end

/-- A text without quotes has no marks then. -/
theorem unmarked {cs : List Char} (h : MarkedByQuote cs) (hquote : '"' ∉ cs) : Unmarked cs := by
  cases hfound : cs.find? isMark with
  | none => exact find?_isMark_eq_none_iff.mp hfound
  | some c =>
    have hmark : isMark c = true := List.find?_some hfound
    have hmem : c ∈ cs := List.mem_of_find?_eq_some hfound
    simp only [isMark, Bool.or_eq_true, beq_iff_eq] at hmark
    rcases hmark with rfl | rfl
    · exact absurd hfound h
    · exact absurd hmem hquote

end MarkedByQuote

/-- The first mark of an escaped text, if there is one, is a backslash. -/
theorem find?_escape (cs : List Char) :
    Unmarked cs ∨ (cs.flatMap escapeMark).find? isMark = some '\\' := by
  induction cs with
  | nil => exact .inl (by decide)
  | cons c cs ih =>
    rw [List.flatMap_cons, escapeMark]
    cases hc : isMark c with
    | true => exact .inr rfl
    | false =>
      rcases ih with hcs | hfound
      · exact .inl (List.forall_mem_cons.mpr ⟨hc, hcs⟩)
      · right
        rw [if_neg Bool.false_ne_true, List.singleton_append, List.find?_cons_of_neg (by simp [hc])]
        exact hfound

/-- An escaped text that is the text of a value has nothing to escape. -/
theorem eq_of_escapeQuoted_eq_text {s : String} {v : Json} (h : escapeQuoted s = v.text) :
    s = v.text := by
  have hlist : s.toList.flatMap escapeMark = v.text.toList := by rw [← toList_escapeQuoted, h]
  rcases find?_escape s.toList with hplain | hfound
  · rw [escape_eq_self hplain] at hlist
    exact String.toList_inj.mp hlist
  · rw [hlist] at hfound
    exact absurd hfound (MarkedByQuote.text v)

theorem escapeQuoted_inj {s t : String} (h : escapeQuoted s = escapeQuoted t) : s = t := by
  have hlist := congrArg String.toList h
  rw [toList_escapeQuoted, toList_escapeQuoted] at hlist
  have hread := congrArg readEscaped? hlist
  rw [readEscaped?_escape, readEscaped?_escape] at hread
  exact String.toList_inj.mp (Option.some.inj hread)

/-! ## The ways of writing a value -/

/-- The value is a list or an object. -/
def Json.IsComposite : Json → Prop
  | .array _ | .object _ => True
  | _ => False

/-- A value is the text in which a list or an object is written. -/
def Json.Spells (v w : Json) : Prop := w.IsComposite ∧ v = .string w.text

/-- The ways in which values are written as literals. -/
inductive WrittenAs : Json → String → Prop
  | plain (v : Json) (h : Unmarked v.text.toList) : WrittenAs v v.text
  | escaped (s : String) : WrittenAs (.string s) (betweenQuotes (escapeQuoted s))
  | quoted (v : Json) (h : v.IsComposite) : WrittenAs v (betweenQuotes v.text)

theorem writtenAs_enumLiteral (v : Json) : WrittenAs v (enumLiteral v) := by
  cases v with
  | null => exact .plain .null (by decide)
  | bool b => cases b <;> exact .plain (.bool _) (by decide)
  | number n => exact .plain (.number n) fun c hc => isMark_of_isNumeral (n.numeral_text c hc)
  | string s => exact .escaped s
  | array xs => exact .quoted (.array xs) trivial
  | object ms => exact .quoted (.object ms) trivial

/-- Values that are written alike have the same text, or one of them spells the other. -/
theorem WrittenAs.text_eq_or_spells {v w : Json} {l m : String} (hv : WrittenAs v l)
    (hw : WrittenAs w m) (h : l = m) : v.text = w.text ∨ v.Spells w ∨ w.Spells v := by
  have hquote : ∀ (u : Json) (s : String), Unmarked u.text.toList →
      u.text ≠ betweenQuotes s := by
    intro u s hplain heq
    have hmem : '"' ∈ u.text.toList := by simp [heq, toList_betweenQuotes]
    exact absurd (hplain _ hmem) (by decide)
  cases hv with
  | plain v hplain =>
    cases hw with
    | plain w => exact .inl h
    | escaped t => exact absurd h (hquote v _ hplain)
    | quoted w => exact absurd h (hquote v _ hplain)
  | escaped s =>
    cases hw with
    | plain w hplain => exact absurd h.symm (hquote w _ hplain)
    | escaped t =>
      have hs := escapeQuoted_inj (betweenQuotes_inj h)
      exact .inl (congrArg (Json.text ∘ .string) hs)
    | quoted w hcomposite =>
      have hs := eq_of_escapeQuoted_eq_text (betweenQuotes_inj h)
      exact .inr (.inl ⟨hcomposite, congrArg Json.string hs⟩)
  | quoted v hcomposite =>
    cases hw with
    | plain w hplain => exact absurd h.symm (hquote w _ hplain)
    | escaped t =>
      have ht := eq_of_escapeQuoted_eq_text (betweenQuotes_inj h).symm
      exact .inr (.inr ⟨hcomposite, congrArg Json.string ht⟩)
    | quoted w => exact .inl (betweenQuotes_inj h)

/-- A literal that starts with a quote is the escaped text of its value between quotes, unless its
value is a list or an object with a quote in its text. -/
theorem WrittenAs.readEscaped?_body {v : Json} {l : String} (h : WrittenAs v l)
    (hquoted : l.toList.head? = some '"') (hplain : v.IsComposite → '"' ∉ v.text.toList) :
    ∃ body, l.toList = '"' :: body ++ ['"'] ∧ readEscaped? body = some (plainText v).toList := by
  cases h with
  | plain v hunmarked =>
    exact absurd (hunmarked _ (List.mem_of_head? hquoted)) (by decide)
  | escaped s =>
    refine ⟨s.toList.flatMap escapeMark, ?_, readEscaped?_escape s.toList⟩
    rw [toList_betweenQuotes, toList_escapeQuoted]
  | quoted v hcomposite =>
    have hunmarked : Unmarked v.text.toList :=
      (MarkedByQuote.text v).unmarked (hplain hcomposite)
    have hread := readEscaped?_escape v.text.toList
    rw [escape_eq_self hunmarked] at hread
    refine ⟨v.text.toList, toList_betweenQuotes v.text, ?_⟩
    rw [hread]
    cases v with
    | string s => exact hcomposite.elim
    | _ => rfl

/-- Values with different texts have different literals, unless one of them is the text in which the
other one is written; and what stands in a literal between quotes reads back as its value. -/
theorem enumValueLiteral_separates (unicode : Bool) (datatype : String) :
    (∀ v w : Json, v.text ≠ w.text → ¬ v.Spells w → ¬ w.Spells v →
      (Conventions.neutral unicode).enumValueLiteral v datatype ≠
        (Conventions.neutral unicode).enumValueLiteral w datatype) ∧
    ∀ v : Json,
      ((Conventions.neutral unicode).enumValueLiteral v datatype).toList.head? = some '"' →
      (v.IsComposite → '"' ∉ v.text.toList) →
      ∃ body, ((Conventions.neutral unicode).enumValueLiteral v datatype).toList =
        '"' :: body ++ ['"'] ∧ readEscaped? body = some (plainText v).toList := by
  constructor
  · intro v w htext hspells hspells' heq
    rcases (writtenAs_enumLiteral v).text_eq_or_spells (writtenAs_enumLiteral w) heq with h | h | h
    · exact htext h
    · exact hspells h
    · exact hspells' h
  · intro v hquoted hplain
    exact (writtenAs_enumLiteral v).readEscaped?_body hquoted hplain

/-- A text with a quote and a list of texts. -/
theorem enumValueLiteral_separates_quotedText :
    (Conventions.neutral false).enumValueLiteral (.string "a\"b") "string" ≠
      (Conventions.neutral false).enumValueLiteral (.array [.string "a"]) "string" ∧
    ∃ body, ((Conventions.neutral false).enumValueLiteral (.string "a\"b") "string").toList =
      '"' :: body ++ ['"'] ∧ readEscaped? body = some "a\"b".toList := by
  obtain ⟨hseparates, hreads⟩ := enumValueLiteral_separates false "string"
  constructor
  · refine hseparates _ _ (by decide +kernel) ?_ ?_
    · rintro ⟨-, heq⟩
      exact absurd (Json.string.inj heq) (by decide +kernel)
    · rintro ⟨hcomposite, -⟩
      exact hcomposite
  · exact hreads (.string "a\"b") (by decide +kernel) fun hcomposite => hcomposite.elim

/-- A text that spells a list has the literal of the list. -/
theorem enumValueLiteral_eq_of_spelledList :
    (Json.string "[1]").text ≠ (Json.array [.number (.integer 1)]).text ∧
    (Conventions.neutral false).enumValueLiteral (.string "[1]") "string" =
      (Conventions.neutral false).enumValueLiteral (.array [.number (.integer 1)]) "string" := by
  decide +kernel

end ApiResolution
