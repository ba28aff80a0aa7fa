import ApiResolution.Text.Table

/-!
Punycode: other characters spelled in ASCII. The ASCII characters of a text stand before the last
hyphen. After it comes a number for each other character, in ascending order of the characters: how
far to go from the last one, over all places of the text and all characters. The digits of a number
start with the lowest, and a digit under a threshold is the last one; the thresholds move with the
size of the numbers before.
-/

namespace ApiResolution
namespace Punycode

/-- The value of a digit: first the letters, then the decimal digits. -/
def digit? (c : Char) : Option Nat :=
  let n := c.toNat
  if 'a' ≤ c ∧ c ≤ 'z' then some (n - 97)
  else if 'A' ≤ c ∧ c ≤ 'Z' then some (n - 65)
  else if '0' ≤ c ∧ c ≤ '9' then some (n - 22)
  else none

/-- The threshold of the digit at a place, where the places count in steps of 36. -/
def threshold (bias place : Nat) : Nat := min 26 (max 1 (place - bias))

/-- Scales a distance down; seven steps are enough for a distance below `2 ^ 32`. -/
def scaleDown : Nat → Nat → Nat → Nat × Nat
  | 0, distance, steps => (distance, steps)
  | fuel + 1, distance, steps =>
    if 455 < distance then scaleDown fuel (distance / 35) (steps + 36) else (distance, steps)

/-- The bias after a distance, for a text of `size` characters. -/
def adapt (distance size : Nat) (first : Bool) : Nat :=
  let distance := if first then distance / 700 else distance / 2
  let (distance, steps) := scaleDown 7 (distance + distance / size) 0
  steps + 36 * distance / (distance + 38)

/-- What is known while a text is read: the text so far, the last character, the place after it, the
bias, and of the number that is being read its value on top of the place, the weight of the next
digit and its place. -/
structure Progress where
  text : List Char
  point : Nat
  place : Nat
  bias : Nat
  value : Nat
  weight : Nat
  digitPlace : Nat

/-- The start of a text with the given ASCII characters. -/
def Progress.start (text : List Char) : Progress := ⟨text, 128, 0, 72, 0, 1, 36⟩

/-- Puts in the character at a distance from the last one. -/
def Progress.insert? (p : Progress) (distance : Nat) : Option Progress :=
  let size := p.text.length + 1
  let total := p.place + distance
  let point := p.point + total / size
  if point.isValidChar then
    let place := total % size
    some (.mk (p.text.take place ++ Char.ofNat point :: p.text.drop place) point (place + 1)
      (adapt distance size (p.place == 0)) 0 1 36)
  else none

/-- Reads one more digit. No number reaches `2 ^ 32`. -/
def Progress.next? (p : Progress) (c : Char) : Option Progress :=
  match digit? c with
  | none => none
  | some d =>
    let value := p.value + d * p.weight
    let t := threshold p.bias p.digitPlace
    if Nat.pow 2 32 ≤ p.place + value then none
    else if d < t then p.insert? value
    else if Nat.pow 2 32 ≤ p.weight * (36 - t) then none
    else some { p with value, weight := p.weight * (36 - t), digitPlace := p.digitPlace + 36 }

/-- The text that a code spells; the last number has to be complete. -/
def decode? (code : List Char) : Option (List Char) :=
  let digits := (code.reverse.takeWhile (· != '-')).reverse
  let before := code.length - digits.length
  -- A hyphen at the start ends no characters, and it is no digit either.
  let (text, digits) := if before ≤ 1 then ([], code) else (code.take (before - 1), digits)
  match digits.foldlM Progress.next? (Progress.start text) with
  | some p => if p.digitPlace = 36 then some p.text else none
  | none => none

end Punycode
end ApiResolution
