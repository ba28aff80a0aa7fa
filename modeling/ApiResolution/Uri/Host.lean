import ApiResolution.Text.Percent
import ApiResolution.Uri.DomainName

/-!
Hosts of absolute addresses: domain names, and the two kinds of numeric addresses in any of their
spellings, so that two spellings of one host become equal values.
-/

namespace ApiResolution

open Identifier (splitWhere)
open Text

/-- The host of an absolute address. -/
inductive Host where
  | domain (name : String)
  | ipv4 (address : Nat)
  | ipv6 (pieces : List Nat)
deriving DecidableEq, Repr

namespace Host

/-- The number written with some digits in a base, if every character is a digit of the base. -/
def digits? (base : Nat) (cs : List Char) : Option Nat :=
  cs.foldl (fun acc c => do
    let n ← acc
    let d ← hexDigitValue? c
    if d < base then some (n * base + d) else none) (some 0)

/-- One number of a dotted address: hexadecimal after `0x`, octal after a zero, else decimal. -/
def dottedNumber? : List Char → Option Nat
  | [] => none
  | '0' :: 'x' :: ds => digits? 16 ds
  | '0' :: 'X' :: ds => digits? 16 ds
  | '0' :: d :: ds => digits? 8 (d :: ds)
  | ds => digits? 10 ds

/-- The labels of a domain name without an empty last one. -/
def labels (cs : List Char) : List (List Char) :=
  let parts := splitWhere (· == '.') cs
  if parts.length > 1 && parts.getLast? == some [] then parts.dropLast else parts

/-- Whether the last label of a domain name makes it a numeric address. -/
def endsInNumber (cs : List Char) : Bool :=
  match (labels cs).getLast? with
  | some [] => false
  | some label => label.all Char.isDigit || (match label with
    | '0' :: x :: ds => (x == 'x' || x == 'X') && (digits? 16 ds).isSome
    | _ => false)
  | none => false

/-- The address of at most four numbers; the last one fills the bytes that the others leave. -/
def ipv4? (cs : List Char) : Option Nat := do
  let parts := labels cs
  if parts.length > 4 then none
  else
    let numbers ← parts.mapM dottedNumber?
    let last ← numbers.getLast?
    let first := numbers.dropLast
    if first.any (· > 255) || last ≥ Nat.pow 256 (5 - numbers.length) then none
    else
      let high := (first.zip [3, 2, 1]).foldl (fun n (b, place) => n + b * Nat.pow 256 place) 0
      some (high + last)

/-- The four bytes of a dotted address without leading zeros, as two pieces. -/
def dottedPieces? (cs : List Char) : Option (List Nat) := do
  let parts := splitWhere (· == '.') cs
  let bytes ← parts.mapM fun p =>
    if p.isEmpty || p.length > 3 || (p.length > 1 && p.head? == some '0') then none
    else do
      let n ← digits? 10 p
      if n ≤ 255 then some n else none
  match bytes with
  | [a, b, c, d] => some [a * 256 + b, c * 256 + d]
  | _ => none

/-- The pieces of colon-separated groups; only the last group may be dotted. -/
def groups? : List (List Char) → Option (List Nat)
  | [] => some []
  | [g] =>
    if g.contains '.' then dottedPieces? g
    else if g.isEmpty || g.length > 4 then none
    else (digits? 16 g).map ([·])
  | g :: rest => do
    if g.isEmpty || g.length > 4 then none
    else
      let n ← digits? 16 g
      let ns ← groups? rest
      some (n :: ns)

/-- The groups before and after the first double colon, which stands for a run of zeros. -/
def splitCompressed : List Char → List Char × Option (List Char)
  | ':' :: ':' :: rest => ([], some rest)
  | c :: rest => let (a, b) := splitCompressed rest; (c :: a, b)
  | [] => ([], none)

/-- The eight pieces of an address in brackets. -/
def ipv6? (cs : List Char) : Option (List Nat) := do
  let pieces (part : List Char) : Option (List Nat) :=
    if part.isEmpty then some [] else groups? (splitWhere (· == ':') part)
  match splitCompressed cs with
  | (all, none) =>
    let ps ← pieces all
    if ps.length = 8 then some ps else none
  | (front, some back) =>
    let fs ← pieces front
    let bs ← pieces back
    if front.contains '.' || fs.length + bs.length > 7 then none
    else some (fs ++ List.replicate (8 - fs.length - bs.length) 0 ++ bs)

/-- The address in brackets. -/
def parseBrackets? (cs : List Char) : Option Host :=
  if cs.getLast? == some ']' then (ipv6? (cs.drop 1).dropLast).map ipv6 else none

/-- The host of an address with a well-known scheme. -/
def parse? (cs : List Char) : Option Host :=
  if cs.head? == some '[' then parseBrackets? cs
  else
    match DomainName.normalize? (percentDecode cs) with
    | none => none
    | some name =>
      if name.isEmpty then none
      else if endsInNumber name then (ipv4? name).map ipv4
      else some (domain (String.ofList name))

/-- Whether a character is in the way of an address with any other scheme. -/
def isForbidden (c : Char) : Bool :=
  c.toNat = 0 || c == '\t' || c == '\n' || c == '\r' || " #/:<>?@[\\]^|".toList.contains c

/-- The host of an address with any other scheme: a name is taken as it is written. -/
def parseOpaque? (cs : List Char) : Option Host :=
  if cs.head? == some '[' then parseBrackets? cs
  else if cs.any isForbidden then none
  else some (domain (String.ofList (percentEncode isBeyondText cs)))

end Host
end ApiResolution
