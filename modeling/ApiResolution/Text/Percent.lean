/-!
Percent-encoded text. A percent sign followed by two hexadecimal digits stands for a byte; a run of
such bytes is read as UTF-8, where each longest piece that starts no character is replaced by the
replacement character. All other characters stand for themselves.
-/

namespace ApiResolution
namespace Text

/-- The value of a hexadecimal digit. -/
def hexDigitValue? (c : Char) : Option Nat :=
  if '0' ≤ c ∧ c ≤ '9' then some (c.toNat - 48)
  else if 'a' ≤ c ∧ c ≤ 'f' then some (c.toNat - 87)
  else if 'A' ≤ c ∧ c ≤ 'F' then some (c.toNat - 55)
  else none

/-- What stands for bytes that are no character. -/
def replacementChar : Char := Char.ofNat 0xFFFD

/-- The length of the character that a first byte announces and the range of its second byte;
`none` for a byte that starts no character of several bytes. -/
def leadByte? (b : Nat) : Option (Nat × Nat × Nat) :=
  if 0xC2 ≤ b ∧ b ≤ 0xDF then some (2, 0x80, 0xBF)
  else if b = 0xE0 then some (3, 0xA0, 0xBF)
  else if b = 0xED then some (3, 0x80, 0x9F)
  else if 0xE1 ≤ b ∧ b ≤ 0xEF then some (3, 0x80, 0xBF)
  else if b = 0xF0 then some (4, 0x90, 0xBF)
  else if 0xF1 ≤ b ∧ b ≤ 0xF3 then some (4, 0x80, 0xBF)
  else if b = 0xF4 then some (4, 0x80, 0x8F)
  else none

/-- Takes the continuation bytes of a character: at most `count`, the first of them in the given
range. Gives the bits collected, how many bytes are missing, and the bytes left. -/
def continuation : Nat → Nat → Nat → Nat → List Nat → Nat × Nat × List Nat
  | 0, _, _, bits, bs => (bits, 0, bs)
  | count + 1, _, _, bits, [] => (bits, count + 1, [])
  | count + 1, low, high, bits, b :: bs =>
    if low ≤ b ∧ b ≤ high then continuation count 0x80 0xBF (bits * 64 + b % 64) bs
    else (bits, count + 1, b :: bs)

/-- The characters of bytes in UTF-8; `fuel` is at least the number of bytes. -/
def decodeBytes : Nat → List Nat → List Char
  | 0, _ => []
  | _, [] => []
  | fuel + 1, b :: bs =>
    if b < 0x80 then Char.ofNat b :: decodeBytes fuel bs
    else
      match leadByte? b with
      | none => replacementChar :: decodeBytes fuel bs
      | some (size, low, high) =>
        let lead := b % Nat.pow 2 (7 - size)
        let (bits, missing, rest) := continuation (size - 1) low high lead bs
        (if missing = 0 then Char.ofNat bits else replacementChar) :: decodeBytes fuel rest

/-- The characters of bytes in UTF-8, with replacement characters for what is no character. -/
def decodeUtf8 (bs : List Nat) : List Char := decodeBytes bs.length bs

/-- Decodes percent-encoded text; `pending` holds the bytes of the current run in reverse. -/
def percentDecodeFrom (pending : List Nat) : List Char → List Char
  | '%' :: high :: low :: rest =>
    match hexDigitValue? high, hexDigitValue? low with
    | some h, some l => percentDecodeFrom ((h * 16 + l) :: pending) rest
    | _, _ => decodeUtf8 pending.reverse ++ '%' :: percentDecodeFrom [] (high :: low :: rest)
  | c :: rest => decodeUtf8 pending.reverse ++ c :: percentDecodeFrom [] rest
  | [] => decodeUtf8 pending.reverse

/-- Decodes percent-encoded text. -/
def percentDecode (cs : List Char) : List Char := percentDecodeFrom [] cs

/-- The bytes of a character in UTF-8. -/
def utf8Bytes (c : Char) : List Nat :=
  (String.singleton c).toUTF8.toList.map UInt8.toNat

/-- A byte as a percent sign and two hexadecimal digits. -/
def percentByte (b : Nat) : List Char :=
  let digit (n : Nat) : Char := if n < 10 then Char.ofNat (48 + n) else Char.ofNat (55 + n)
  ['%', digit (b / 16), digit (b % 16)]

/-- Percent-encodes the characters that ask for it. -/
def percentEncode (asks : Char → Bool) (cs : List Char) : List Char :=
  cs.flatMap fun c => if asks c then (utf8Bytes c).flatMap percentByte else [c]

/-- Whether a character is a control character or beyond ASCII. -/
def isBeyondText (c : Char) : Bool := c.toNat < 32 || 126 < c.toNat

end Text
end ApiResolution
