import ApiResolution.Operation.TestPath

/-!
What a filled path is. `Fills` reads the path as it was given, once and from left to right, and
knows nothing of cursors: what stands behind a placeholder is filled as if the path started there,
so an example that is put in is never read. The turns of `Filling` come to the same text, and no
turn cuts a character in two (`fills_iff_eq_fillPath`).
-/

namespace ApiResolution
namespace Operation

/-- The first parameter of a name has an example. -/
def Exemplifies (ps : List Parameter) (name e : String) : Prop :=
  ∃ before p after, ps = before ++ p :: after ∧ (∀ q ∈ before, q.baseName ≠ name) ∧
    p.baseName = name ∧ p.exampleText = some e

/-- A text is what a path becomes. Placeholders are filled up to the first that is not closed or
has no example; from there on the path stays as it is. -/
inductive Fills (ps : List Parameter) : List Char → List Char → Prop
  | bare {cs : List Char} (hfree : '{' ∉ cs) : Fills ps cs cs
  | unclosed {before after : List Char} (hfree : '{' ∉ before) (hopen : '}' ∉ after) :
    Fills ps (before ++ '{' :: after) (before ++ '{' :: after)
  | unmatched {before name after : List Char} (hfree : '{' ∉ before) (hclosed : '}' ∉ name)
      (hnone : ∀ e, ¬ Exemplifies ps (String.ofList name) e) :
    Fills ps (before ++ '{' :: name ++ '}' :: after) (before ++ '{' :: name ++ '}' :: after)
  | filled {before name after out : List Char} {e : String} (hfree : '{' ∉ before)
      (hclosed : '}' ∉ name) (hexample : Exemplifies ps (String.ofList name) e)
      (hrest : Fills ps after out) :
    Fills ps (before ++ '{' :: name ++ '}' :: after) (before ++ e.toList ++ out)

variable {ps : List Parameter} {name e : String}

theorem exampleOf?_eq_some_iff : exampleOf? ps name = some e ↔ Exemplifies ps name e := by
  unfold exampleOf?
  constructor
  · intro h
    obtain ⟨p, hfind, hexample⟩ := Option.bind_eq_some_iff.mp h
    obtain ⟨hname, before, after, hps, hbefore⟩ := List.find?_eq_some_iff_append.mp hfind
    exact ⟨before, p, after, hps, fun q hq => by simpa using hbefore q hq, by simpa using hname,
      hexample⟩
  · rintro ⟨before, p, after, hps, hbefore, hname, hexample⟩
    have hfind : ps.find? (fun p => p.baseName == name) = some p :=
      List.find?_eq_some_iff_append.mpr
        ⟨by simpa using hname, before, after, hps, fun q hq => by simpa using hbefore q hq⟩
    rw [hfind]
    exact hexample

theorem exampleOf?_eq_none_iff : exampleOf? ps name = none ↔ ∀ e, ¬ Exemplifies ps name e := by
  rw [Option.eq_none_iff_forall_ne_some]
  exact forall_congr' fun e => not_congr exampleOf?_eq_some_iff

/-! ## One turn

A turn reads the part of the text behind the cursor; the part before it is only carried along.
-/

namespace Filling

/-- The filling whose cursor stands between two parts of its text. -/
def between (done rest : List Char) : Filling := ⟨done ++ rest, Text.byteLength done⟩

variable {example? : String → Option String} {done before name after : List Char}

theorem turn?_bare {rest : List Char} (hfree : '{' ∉ rest) :
    (between done rest).turn? example? = some .ends := by
  unfold turn? between
  rw [Text.cutAt?_append]
  simp only [Option.bind_eq_bind, Option.bind_some, Text.offsetOf?_eq_none hfree]
  rfl

theorem turn?_unclosed (hfree : '{' ∉ before) (hopen : '}' ∉ after) :
    (between done (before ++ '{' :: after)).turn? example? = some .ends := by
  have hstart : Text.cutAt? (done ++ (before ++ '{' :: after))
      (Text.byteLength done + Text.byteLength before) = some (done ++ before, '{' :: after) := by
    rw [← List.append_assoc, ← Text.byteLength_append, Text.cutAt?_append]
  have hclose : '}' ∉ '{' :: after := by simpa using hopen
  unfold turn? between
  rw [Text.cutAt?_append]
  simp only [Option.bind_eq_bind, Option.bind_some, Text.offsetOf?_append_cons hfree, hstart,
    Text.offsetOf?_eq_none hclose]
  rfl

/-- The turn at a placeholder. -/
theorem turn?_placeholder (hfree : '{' ∉ before) (hclosed : '}' ∉ name) :
    (between done (before ++ '{' :: name ++ '}' :: after)).turn? example? =
      some (match example? (String.ofList name) with
        | none => .ends
        | some e => .goesOn (between (done ++ before ++ e.toList) after)) := by
  -- Every offset at which the turn cuts is the byte length of some pieces of the text.
  let text := done ++ (before ++ '{' :: name ++ '}' :: after)
  let start := Text.byteLength done + Text.byteLength before
  let length := Text.byteLength ('{' :: name)
  have hlength : length = 1 + Text.byteLength name := rfl
  have hstart : Text.cutAt? text start = some (done ++ before, '{' :: name ++ '}' :: after) :=
    Text.cutAt?_eq_some_iff.mpr ⟨by simp [text], Text.byteLength_append done before⟩
  have hname : Text.partsAt? text (start + 1) (start + length) =
      some (done ++ before ++ ['{'], name, '}' :: after) := by
    refine Text.partsAt?_eq_some_iff.mpr ⟨by simp [text], ?_, ?_⟩
    · rw [Text.byteLength_append, Text.byteLength_append]
      rfl
    · rw [Text.byteLength_append, Text.byteLength_append, hlength, ← Nat.add_assoc]
      rfl
  have hstretch : Text.partsAt? text start (start + length + 1) =
      some (done ++ before, '{' :: name ++ ['}'], after) := by
    refine Text.partsAt?_eq_some_iff.mpr ⟨by simp [text], Text.byteLength_append done before, ?_⟩
    rw [Text.byteLength_append, Text.byteLength_append, Nat.add_assoc start]
    rfl
  have hopening : Text.offsetOf? '{' (before ++ '{' :: name ++ '}' :: after) =
      some (Text.byteLength before) := by
    rw [List.append_assoc, List.cons_append, Text.offsetOf?_append_cons hfree]
  have hclosing : Text.offsetOf? '}' ('{' :: name ++ '}' :: after) = some length :=
    Text.offsetOf?_append_cons (by simpa using hclosed) after
  unfold turn? between
  rw [Text.cutAt?_append]
  simp only [Option.bind_eq_bind, Option.bind_some, hopening]
  rw [hstart]
  simp only [Option.bind_some, hclosing]
  rw [hname]
  simp only [Option.bind_some]
  cases example? (String.ofList name) with
  | none => rfl
  | some e =>
    dsimp only
    rw [hstretch]
    simp only [Option.bind_some, Text.byteLength_append]
    rfl

theorem turn?_unmatched (hfree : '{' ∉ before) (hclosed : '}' ∉ name)
    (hnone : example? (String.ofList name) = none) :
    (between done (before ++ '{' :: name ++ '}' :: after)).turn? example? = some .ends := by
  rw [turn?_placeholder hfree hclosed, hnone]

theorem turn?_filled {e : String} (hfree : '{' ∉ before) (hclosed : '}' ∉ name)
    (hexample : example? (String.ofList name) = some e) :
    (between done (before ++ '{' :: name ++ '}' :: after)).turn? example? =
      some (.goesOn (between (done ++ before ++ e.toList) after)) := by
  rw [turn?_placeholder hfree hclosed, hexample]

/-! ## All turns -/

theorem run?_eq_of_ends {f : Filling} (h : f.turn? example? = some .ends) :
    f.run? example? = some f.text := by
  rw [run?]
  split
  · next hturn => exact absurd (h.symm.trans hturn) (by simp)
  · rfl
  · next hturn => exact absurd (h.symm.trans hturn) (by simp)

theorem run?_eq_of_goesOn {f next : Filling} (h : f.turn? example? = some (.goesOn next)) :
    f.run? example? = next.run? example? := by
  rw [run?]
  split
  · next hturn => exact absurd (h.symm.trans hturn) (by simp)
  · next hturn => exact absurd (h.symm.trans hturn) (by simp)
  · next hturn =>
    obtain rfl := Turn.goesOn.inj (Option.some.inj (h.symm.trans hturn))
    rfl

end Filling

open Filling in
/-- The turns fill what stands behind the cursor and keep what stands before it. -/
theorem Fills.run? {rest out : List Char} (h : Fills ps rest out) (done : List Char) :
    (between done rest).run? (exampleOf? ps) = some (done ++ out) := by
  -- `done` is general, as each turn moves an example from what is filled to what is done.
  induction h generalizing done with
  | bare hfree => exact run?_eq_of_ends (turn?_bare hfree)
  | unclosed hfree hopen => exact run?_eq_of_ends (turn?_unclosed hfree hopen)
  | unmatched hfree hclosed hnone =>
    have hexample := exampleOf?_eq_none_iff.mpr hnone
    exact run?_eq_of_ends (turn?_unmatched hfree hclosed hexample)
  | filled hfree hclosed hexample _ ih =>
    have hexample := exampleOf?_eq_some_iff.mpr hexample
    rw [run?_eq_of_goesOn (turn?_filled hfree hclosed hexample), ih]
    simp only [List.append_assoc]

/-! ## Every path is filled -/

theorem exists_fills (ps : List Parameter) (cs : List Char) : ∃ out, Fills ps cs out := by
  by_cases hfree : '{' ∈ cs
  · obtain ⟨before, after, rfl, hbefore⟩ := List.eq_append_cons_of_mem hfree
    by_cases hclosed : '}' ∈ after
    · obtain ⟨name, rest, rfl, hname⟩ := List.eq_append_cons_of_mem hclosed
      cases hexample : exampleOf? ps (String.ofList name) with
      | none =>
        have hfills : Fills ps (before ++ '{' :: name ++ '}' :: rest) _ :=
          .unmatched hbefore hname (exampleOf?_eq_none_iff.mp hexample)
        exact ⟨_, by simpa using hfills⟩
      | some e =>
        obtain ⟨out, hout⟩ := exists_fills ps rest
        have hfills := Fills.filled hbefore hname (exampleOf?_eq_some_iff.mp hexample) hout
        exact ⟨_, by simpa using hfills⟩
    · exact ⟨_, .unclosed hbefore hclosed⟩
  · exact ⟨cs, .bare hfree⟩
termination_by cs.length

/-- Filling a path never cuts a character in two, and gives the one text that the path becomes when
it is read once. -/
theorem fills_iff_eq_fillPath (path : String) (ps : List Parameter) :
    fillPath? path ps = some (fillPath path ps) ∧
      ∀ out, Fills ps path.toList out ↔ out = (fillPath path ps).toList := by
  have hrun : ∀ {out : List Char}, Fills ps path.toList out →
      fillPath? path ps = some (String.ofList out) := by
    intro out hfills
    have h := hfills.run? []
    rw [List.nil_append] at h
    unfold fillPath?
    exact congrArg (Option.map String.ofList) h
  obtain ⟨filled, hfilled⟩ := exists_fills ps path.toList
  have hpath : fillPath path ps = String.ofList filled := by
    rw [fillPath, hrun hfilled, Option.getD_some]
  refine ⟨hpath ▸ hrun hfilled, fun out => ⟨fun h => ?_, fun h => ?_⟩⟩
  · have heq := Option.some.inj ((hrun h).symm.trans (hrun hfilled))
    rw [hpath, ← heq, String.toList_ofList]
  · rw [h, hpath, String.toList_ofList]
    exact hfilled

example : fillPath "/é/{a}/{b}/{a}" [
      { baseName := "a", paramName := "a", exampleText := some "{b}" },
      { baseName := "b", paramName := "b", exampleText := some "" }] = "/é/{b}//{b}" := by
  decide +kernel

end Operation
end ApiResolution
