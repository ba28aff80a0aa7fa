import ApiResolution.Text.Case

/-!
Identifiers made from free text: camel case, removal of characters that no identifier may hold, and
names invented beside taken ones.
-/

namespace ApiResolution
namespace Identifier

open Text

/-- The pieces of a list between the elements that satisfy `p`. -/
def splitWhere {α : Type} (p : α → Bool) : List α → List (List α)
  | [] => [[]]
  | a :: rest =>
    if p a then [] :: splitWhere p rest
    else
      match splitWhere p rest with
      | piece :: pieces => (a :: piece) :: pieces
      | [] => [[a]]

/-- The text with its first character in upper case. -/
def capitalizeChars : List Char → List Char
  | [] => []
  | c :: rest => upperChar c ++ rest

/-- The text with its first character in lower case. -/
def decapitalizeChars : List Char → List Char
  | [] => []
  | c :: rest => lowerChar c ++ rest

/-- The text with its first character in upper case. -/
def capitalize (s : String) : String := String.ofList (capitalizeChars s.toList)

/-- The text with its first character in lower case. -/
def decapitalize (s : String) : String := String.ofList (decapitalizeChars s.toList)

/-- Characters between the words of a name. -/
def isWordBreak (c : Char) : Bool :=
  c == '_' || c == '-' || c == '.' || c == '/' || c == ' '

/-- The words of a name, each with its first character in upper case, joined. -/
def camelChars (cs : List Char) : List Char :=
  ((splitWhere isWordBreak cs).map capitalizeChars).flatten

/-- The name in camel case with a leading upper-case character: `pet_store` becomes `PetStore`. -/
def upperCamel (s : String) : String := String.ofList (camelChars s.toList)

/-- The name in camel case with a leading lower-case character: `pet_store` becomes `petStore`. -/
def lowerCamel (s : String) : String := decapitalize (upperCamel s)

/-- Whether a character may stay in an identifier: ASCII letters, digits and the underscore, with
`unicode` every letter and number. -/
def isWordChar (unicode : Bool) (c : Char) : Bool :=
  c == '_' || (if unicode then isLetter c || isNumber c else c.isAlphanum)

/-- Empty brackets vanish, opening brackets, points, hyphens and spaces become underscores, and
every other character that may not stay vanishes. -/
def sanitizeChars (unicode : Bool) : List Char → List Char
  | '[' :: ']' :: rest => sanitizeChars unicode rest
  | c :: rest =>
    if c = '[' ∨ c = '(' ∨ c = '.' ∨ c = '-' ∨ c = ' ' then '_' :: sanitizeChars unicode rest
    else if isWordChar unicode c then c :: sanitizeChars unicode rest
    else sanitizeChars unicode rest
  | [] => []

/-- The text without the characters that no identifier may hold. -/
def sanitize (unicode : Bool) (s : String) : String :=
  String.ofList (sanitizeChars unicode s.toList)

/-- The parts of an operation name: the first one starts in lower case, the others in upper case. -/
def joinParts : List Char → List (List Char) → List Char
  | acc, [] => acc
  | acc, part :: parts =>
    if acc.isEmpty then joinParts (decapitalizeChars part) parts
    else joinParts (acc ++ capitalizeChars part) parts

/-- The name of an operation without one of its own: the segments of its path without braces,
followed by its method. The root path contributes `root`. -/
def ofPathAndMethod (path method : String) : String :=
  let clean := path.toList.filter fun c => c != '{' && c != '}'
  let start := if clean = ['/'] then "root".toList else []
  let joined := clean ++ '/' :: (toLower method).toList
  let parts := (splitWhere (· == '/') joined).filter fun p => !p.isEmpty
  String.ofList (joinParts start parts)

/-- Drops everything up to the first underscore. -/
def dropFirstWord (s : String) : String :=
  match s.toList.dropWhile (· != '_') with
  | _ :: rest => String.ofList rest
  | [] => s

/-- The largest unsigned 64-bit number. -/
def maxCounter : Nat := Nat.pow 2 64 - 1

/-- The number written by a nonempty run of ASCII digits that fits 64 bits. -/
def counter? (ds : List Char) : Option Nat :=
  if ds.isEmpty || !ds.all Char.isDigit then none
  else
    let n := ds.foldl (fun n d => 10 * n + (d.toNat - 48)) 0
    if n ≤ maxCounter then some n else none

/-- The longest run of decimal digits at the end of a text. -/
def trailingDigits (cs : List Char) : List Char :=
  (cs.reverse.takeWhile isDecimalDigit).reverse

/-- The next name after a name: its trailing number is increased, and where there is none, or none
that fits 64 bits, a `2` is appended. -/
def nextName (s : String) : String :=
  let cs := s.toList
  let digits := trailingDigits cs
  match counter? digits with
  | some n =>
    if n < maxCounter then
      String.ofList (cs.take (cs.length - digits.length) ++ (toString (n + 1)).toList)
    else s ++ "2"
  | none => s ++ "2"

/-- The name of the model made for the union of a schema, or of one of its members. -/
def ofUnion (kind schema : String) (member : Option String) : String :=
  kind ++ upperCamel schema ++ (member.map upperCamel).getD ""

end Identifier
end ApiResolution
