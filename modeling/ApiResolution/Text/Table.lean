import ApiResolution.Text.Percent

/-!
Tables of code points, written as texts: entries between blanks or line ends, and in each entry
hexadecimal numbers between commas, with a hyphen before a negative one.
-/

namespace ApiResolution
namespace Text
namespace Table

/-- The nonempty pieces of a text between separators. -/
def fields (separates : Char → Bool) (cs : List Char) : List (List Char) :=
  let pieces := cs.foldr (fun c fs =>
    if separates c then [] :: fs
    else
      match fs with
      | f :: rest => (c :: f) :: rest
      | [] => [[c]]) [[]]
  pieces.filter fun f => !f.isEmpty

/-- The number of hexadecimal digits. -/
def natural (cs : List Char) : Nat := cs.foldl (fun n c => 16 * n + (hexDigitValue? c).getD 0) 0

/-- The number of hexadecimal digits with an optional sign. -/
def integer : List Char → Int
  | '-' :: rest => -(natural rest : Int)
  | cs => natural cs

/-- The entries of a table. -/
def entries (s : String) : List (List Int) :=
  (fields (fun c => c == ' ' || c == '\n') s.toList).map fun e => (fields (· == ',') e).map integer

/-- Ranges of code points: first and last, or one number for both. -/
def ranges (s : String) : List (Nat × Nat) :=
  (entries s).filterMap fun
    | [first] => some (first.toNat, first.toNat)
    | [first, last] => some (first.toNat, last.toNat)
    | _ => none

/-- Runs of code points: first, last, step and a distance, or one code point and its target. -/
def runs (s : String) : List (Nat × Nat × Nat × Int) :=
  (entries s).filterMap fun
    | [point, target] => some (point.toNat, point.toNat, 1, target - point)
    | [first, last, step, distance] => some (first.toNat, last.toNat, step.toNat, distance)
    | _ => none

/-- Code points with a sequence each. -/
def sequences (s : String) : List (Nat × List Nat) :=
  (entries s).filterMap fun
    | [] => none
    | first :: rest => some (first.toNat, rest.map Int.toNat)

/-- Ranges of code points with a number each: first, last and the number. -/
def classes (s : String) : List (Nat × Nat × Nat) :=
  (entries s).filterMap fun
    | [first, last, number] => some (first.toNat, last.toNat, number.toNat)
    | _ => none

end Table

/-- Whether a code point lies in one of some ranges. -/
def inRanges (ranges : List (Nat × Nat)) (n : Nat) : Bool :=
  ranges.any fun r => r.1 ≤ n && n ≤ r.2

/-- The image of a code point under the runs, if one of them holds it. -/
def mapRun? (runs : List (Nat × Nat × Nat × Int)) (n : Nat) : Option Nat :=
  (runs.find? fun (first, last, step, _) => first ≤ n && n ≤ last && (n - first) % step == 0).map
    fun (_, _, _, delta) => (n + delta).toNat

/-- The image of a code point under sequences and runs, if one of them holds it. -/
def image? (sequences : List (Nat × List Nat)) (runs : List (Nat × Nat × Nat × Int)) (n : Nat) :
    Option (List Nat) :=
  match sequences.lookup n with
  | some ns => some ns
  | none => (mapRun? runs n).map fun m => [m]

end Text
end ApiResolution
