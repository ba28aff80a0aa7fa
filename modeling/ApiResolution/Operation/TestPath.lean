import ApiResolution.Operation
import ApiResolution.Text.Bytes

/-!
Paths with examples in place of their parameters. A path is filled in turns: each turn looks for a
name between braces behind the bytes that are done, puts the example of the name in its place, and
counts the example among what is done. Each turn leaves less of the path to be read
(`unread_lt_of_turn?`).
-/

namespace ApiResolution
namespace Operation

/-- The example of the first parameter of a name. -/
def exampleOf? (ps : List Parameter) (name : String) : Option String :=
  (ps.find? fun p => p.baseName == name).bind (·.exampleText)

/-- A path that is being filled. -/
structure Filling where
  /-- The path with the examples so far. -/
  text : List Char
  /-- The number of bytes that are done. -/
  cursor : Nat

namespace Filling

/-- What a turn comes to. -/
inductive Turn where
  /-- There is nothing more to fill. -/
  | ends
  /-- An example was put in. -/
  | goesOn (next : Filling)

/-- One turn; none when it would cut a character in two. It ends at a path without a further brace,
at a brace that is not closed, and at a name without an example. -/
def turn? (example? : String → Option String) (f : Filling) : Option Turn := do
  let (_, unread) ← Text.cutAt? f.text f.cursor
  match Text.offsetOf? '{' unread with
  | none => return .ends
  | some offset =>
    let start := f.cursor + offset
    let (_, tail) ← Text.cutAt? f.text start
    match Text.offsetOf? '}' tail with
    | none => return .ends
    | some length =>
      let (_, name, _) ← Text.partsAt? f.text (start + 1) (start + length)
      match example? (String.ofList name) with
      | none => return .ends
      | some e =>
        let (before, _, after) ← Text.partsAt? f.text start (start + length + 1)
        return .goesOn
          { text := before ++ e.toList ++ after
            cursor := start + Text.byteLength e.toList }

/-- The number of bytes that are still to be read. -/
def unread (f : Filling) : Nat := Text.byteLength f.text - f.cursor

theorem unread_lt_of_turn? {example? : String → Option String} {f next : Filling}
    (h : f.turn? example? = some (.goesOn next)) : next.unread < f.unread := by
  unfold turn? at h
  obtain ⟨⟨done, rest⟩, hcursor, h⟩ := Option.bind_eq_some_iff.mp h
  dsimp only at h
  split at h
  · exact absurd h (by simp)
  · next offset _ =>
    obtain ⟨⟨read, tail⟩, -, h⟩ := Option.bind_eq_some_iff.mp h
    dsimp only at h
    split at h
    · exact absurd h (by simp)
    · next length _ =>
      obtain ⟨⟨_, name, _⟩, -, h⟩ := Option.bind_eq_some_iff.mp h
      dsimp only at h
      split at h
      · exact absurd h (by simp)
      · next e _ =>
        obtain ⟨⟨before, between, after⟩, hparts, h⟩ := Option.bind_eq_some_iff.mp h
        obtain ⟨htext, hbefore, hbetween⟩ := Text.partsAt?_eq_some_iff.mp hparts
        have hnext : next = ⟨before ++ e.toList ++ after,
            f.cursor + offset + Text.byteLength e.toList⟩ := by
          simpa using h.symm
        -- What is left is what stands behind the closing brace, and the braces are gone.
        have hleft : next.unread = Text.byteLength after := by
          subst hnext
          show Text.byteLength (before ++ e.toList ++ after) -
            (f.cursor + offset + Text.byteLength e.toList) = _
          rw [Text.byteLength_append, Text.byteLength_append, hbefore]
          omega
        have hwhole : Text.byteLength f.text = Text.byteLength before +
            Text.byteLength between + Text.byteLength after := by
          rw [htext, Text.byteLength_append, Text.byteLength_append]
        rw [hleft, unread, hwhole]
        omega

/-- Fills a path turn by turn; none when a turn would cut a character in two. -/
def run? (example? : String → Option String) (f : Filling) : Option (List Char) :=
  match h : f.turn? example? with
  | none => none
  | some .ends => some f.text
  | some (.goesOn next) =>
    have : next.unread < f.unread := unread_lt_of_turn? h
    next.run? example?
termination_by f.unread

end Filling

/-- The path with the examples of its parameters; none if a character had to be cut in two. -/
def fillPath? (path : String) (ps : List Parameter) : Option String :=
  (Filling.run? (exampleOf? ps) ⟨path.toList, 0⟩).map String.ofList

/-- The path with the examples of its parameters. -/
def fillPath (path : String) (ps : List Parameter) : String := (fillPath? path ps).getD path

end Operation
end ApiResolution
