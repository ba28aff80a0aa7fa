import ApiResolution.Number

/-!
What the text of a plain scalar denotes. Words and numbers are told apart by their spelling alone;
everything that is none of them is a text.
-/

namespace ApiResolution
namespace Yaml

/-- What a plain scalar denotes. A number may be infinite or none at all, and an integer too large
for 64 bits denotes no value. -/
inductive PlainValue where
  | null
  | bool (b : Bool)
  | number (n : Number)
  | notFinite
  | tooLarge
  | text (s : String)
deriving Repr

namespace PlainValue

/-- Whether the text is a word for null. -/
def isNullWord (s : String) : Bool := s == "~" || s == "null" || s == "Null" || s == "NULL"

/-- Whether a plain scalar denotes null. -/
def isNull (s : String) : Bool := s == "" || isNullWord s

/-- The truth value that a plain scalar denotes. -/
def bool? (s : String) : Option Bool :=
  if s == "true" || s == "True" || s == "TRUE" then some true
  else if s == "false" || s == "False" || s == "FALSE" then some false
  else none

/-- Whether the text is a run of digits with a needless zero in front, which is no number. -/
def hasLeadingZero (cs : List Char) : Bool :=
  let body := match cs with
    | '-' :: rest => rest
    | '+' :: rest => rest
    | _ => cs
  match body with
  | '0' :: d :: rest => (d :: rest).all Char.isDigit
  | _ => false

/-- The value of a digit in bases up to sixteen. -/
def digit? (c : Char) : Option Nat :=
  if '0' ≤ c ∧ c ≤ '9' then some (c.toNat - 48)
  else if 'a' ≤ c ∧ c ≤ 'f' then some (c.toNat - 87)
  else if 'A' ≤ c ∧ c ≤ 'F' then some (c.toNat - 55)
  else none

/-- The number written by a nonempty run of digits of a base. -/
def natural? (base : Nat) (cs : List Char) : Option Nat :=
  if cs.isEmpty then none
  else cs.foldl (fun acc c => do
    let n ← acc
    let d ← digit? c
    if d < base then some (n * base + d) else none) (some 0)

/-- The number after `0x`, `0o` or `0b`, or of decimal digits. -/
def unsigned? (cs : List Char) : Option Nat :=
  match cs with
  | '0' :: 'x' :: ds => natural? 16 ds
  | '0' :: 'o' :: ds => natural? 8 ds
  | '0' :: 'b' :: ds => natural? 2 ds
  | ds => if hasLeadingZero ds then none else natural? 10 ds

/-- The integer that a plain scalar denotes, of any size. -/
def integer? (cs : List Char) : Option Int :=
  match cs with
  | '+' :: ds => if hasLeadingZero ds then none else (unsigned? ds).map Int.ofNat
  | '-' :: ds => (unsigned? ds).map fun n => -(Int.ofNat n)
  | ds => (unsigned? ds).map Int.ofNat

/-- Whether the text is an infinity or the value that is no number. -/
def isSpecial (s : String) : Bool :=
  [".inf", ".Inf", ".INF", "+.inf", "+.Inf", "+.INF", "-.inf", "-.Inf", "-.INF",
    ".nan", ".NaN", ".NAN"].contains s

/-- The digits before a power of ten and the power, which needs at least one digit. -/
def power? : List Char → Option Int
  | [] => some 0
  | e :: rest =>
    if e == 'e' || e == 'E' then
      match rest with
      | '-' :: ds => (natural? 10 ds).map fun n => -(Int.ofNat n)
      | '+' :: ds => (natural? 10 ds).map Int.ofNat
      | ds => (natural? 10 ds).map Int.ofNat
    else none

/-- The double that a plain scalar denotes: digits with an optional point and an optional power of
ten, at least one digit beside the point. Numbers beyond the largest double are texts. -/
def double? (cs : List Char) : Option Number := do
  let (negative, body) := match cs with
    | '-' :: rest => (true, rest)
    | '+' :: rest => (false, rest)
    | _ => (false, cs)
  let (whole, rest) := body.span Char.isDigit
  let (places, rest) := match rest with
    | '.' :: tail => tail.span Char.isDigit
    | _ => ([], rest)
  if whole.isEmpty && places.isEmpty then none
  else
    let power ← power? rest
    let digits ← natural? 10 (whole ++ places)
    (Binary64.ofDecimal negative digits (power - places.length)).map Number.double

/-- The number that a text denotes when a number is asked for: any spelling of a double. -/
def float? (s : String) : Option PlainValue :=
  if isSpecial s then some notFinite else (double? s.toList).map number

/-- The value of an integer of any size, as far as it fits. -/
def ofInteger (n : Int) : Option PlainValue :=
  if Number.fits64 n then some (number (.integer n))
  else if -Int.pow 2 127 ≤ n ∧ n < Int.pow 2 128 then some tooLarge
  else none

/-- The integer that a text denotes when an integer is asked for. -/
def int? (s : String) : Option PlainValue := (integer? s.toList).bind ofInteger

/-- What a plain scalar denotes. -/
def ofText (s : String) : PlainValue :=
  if isNull s then null
  else
    match bool? s with
    | some b => bool b
    | none =>
      match int? s with
      | some value => value
      | none => if hasLeadingZero s.toList then text s else (float? s).getD (text s)

end PlainValue

end Yaml
end ApiResolution
