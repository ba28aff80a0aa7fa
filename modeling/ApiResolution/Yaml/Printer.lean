import ApiResolution.Json
import ApiResolution.Yaml.Cursor
import ApiResolution.Yaml.PlainValue

/-!
The YAML text of JSON values, in block style with two spaces for each level. A text is written as a
plain scalar where it reads back as the same text, as a literal block when it has several lines,
between apostrophes otherwise, and between quotes where escapes are needed.
-/

namespace ApiResolution
namespace Yaml

/-- Doubles are laid out like everywhere, but an exponent carries no plus sign. -/
def numberLayout : DecimalLayout := { Number.layout with exponentPlus := false }

/-- The text of a number. -/
def numberText : Number → String
  | .integer n => toString n
  | .double x => numberLayout.doubleText x

namespace TextForm

/-- Characters that end a line in a text that is written as it is. -/
def isBreak (c : Char) : Bool := c == '\n' || c.toNat == 0x2028 || c.toNat == 0x2029

/-- Characters that are written as they are. -/
def isPrintable (c : Char) : Bool :=
  let n := c.toNat
  n == 0x0A || (0x20 ≤ n && n ≤ 0x7E) ||
    (0xA0 ≤ n && n != 0xFEFF && n != 0xFFFE && n != 0xFFFF)

/-- Characters that separate: blanks, line ends and the null character. -/
def separates (c : Char) : Bool :=
  c == ' ' || c == '\t' || c == '\r' || c.toNat == 0 || c.toNat == 0x85 || isBreak c

/-- Whether a separator or nothing follows. -/
def endsHere : List Char → Bool
  | [] => true
  | c :: _ => separates c

/-- Whether a plain scalar may not start like this. -/
def startsAsMark : List Char → Bool
  | [] => false
  | c :: rest =>
    "#,[]{}&*!|>'\"%@\x60".toList.contains c ||
      ((c == '?' || c == ':' || c == '-') && endsHere rest)

/-- Whether the text starts with three hyphens or three points. -/
def startsAsDocument : List Char → Bool
  | '-' :: '-' :: '-' :: _ => true
  | '.' :: '.' :: '.' :: _ => true
  | _ => false

/-- Whether a colon before a separator, or a hash after one, lies behind the first character. -/
def hasMark (afterSeparator : Bool) : List Char → Bool
  | [] => false
  | c :: rest =>
    (c == ':' && endsHere rest) || (c == '#' && afterSeparator) || hasMark (separates c) rest

/-- Whether two neighbours satisfy a test. -/
def hasNeighbours (test : Char → Char → Bool) : List Char → Bool
  | c :: d :: rest => test c d || hasNeighbours test (d :: rest)
  | _ => false

/-- Whether a space stands before the end of a line. -/
def spaceBeforeBreak (cs : List Char) : Bool := hasNeighbours (fun c d => c == ' ' && isBreak d) cs

/-- Whether a space stands at the start of a later line. -/
def spaceAfterBreak (cs : List Char) : Bool := hasNeighbours (fun c d => isBreak c && d == ' ') cs

/-- Whether a text may stand between apostrophes. -/
def fitsApostrophes (cs : List Char) : Bool :=
  cs.all isPrintable && !spaceBeforeBreak cs && !spaceAfterBreak cs

/-- Whether a text may stand in a literal block. -/
def fitsBlock (cs : List Char) : Bool :=
  cs.all isPrintable && !spaceBeforeBreak cs && cs.getLast? != some ' '

/-- Whether a text may stand without quotes, apart from what it would be read as. -/
def fitsPlain (cs : List Char) : Bool :=
  fitsApostrophes cs && !cs.any isBreak && cs.head? != some ' ' && cs.getLast? != some ' ' &&
    !startsAsMark cs && !startsAsDocument cs &&
    (match cs with
      | [] => true
      | c :: rest => !hasMark (separates c) rest)

/-- Whether a plain scalar would be read as something other than a text. -/
def readsOtherwise (s : String) : Bool :=
  match PlainValue.ofText s with
  | .text _ => PlainValue.hasLeadingZero s.toList
  | _ => true

end TextForm

/-- The forms of a text. -/
inductive TextForm where
  | plain
  | apostrophes
  | quotes
  | block
deriving DecidableEq, Repr

namespace TextForm

/-- The form in which a text is written. -/
def ofText (s : String) : TextForm :=
  let cs := s.toList
  if cs.contains '\n' then (if fitsBlock cs then block else quotes)
  else if !readsOtherwise s && fitsPlain cs then plain
  else if fitsApostrophes cs then apostrophes
  else quotes

end TextForm

/-- Spaces up to a column. -/
def padding (column : Nat) : List Char := List.replicate column ' '

/-- A text between apostrophes: an apostrophe is doubled, and a line starts at a column. -/
def apostropheBody (column : Nat) : List Char → List Char
  | [] => []
  | '\'' :: rest => '\'' :: '\'' :: apostropheBody column rest
  | c :: rest =>
    if TextForm.isBreak c && !((rest.head?.map TextForm.isBreak).getD false) then
      c :: padding column ++ apostropheBody column rest
    else c :: apostropheBody column rest

/-- The upper-case hexadecimal digits of a number, at least `width` of them. -/
def hexDigits (width n : Nat) : List Char :=
  let ds := (Nat.toDigits 16 n).map Char.toUpper
  List.replicate (width - ds.length) '0' ++ ds

/-- The escape of a character. -/
def escape (c : Char) : List Char :=
  match c.toNat with
  | 0x00 => ['\\', '0']
  | 0x07 => ['\\', 'a']
  | 0x08 => ['\\', 'b']
  | 0x09 => ['\\', 't']
  | 0x0A => ['\\', 'n']
  | 0x0B => ['\\', 'v']
  | 0x0C => ['\\', 'f']
  | 0x0D => ['\\', 'r']
  | 0x1B => ['\\', 'e']
  | 0x22 => ['\\', '"']
  | 0x5C => ['\\', '\\']
  | 0x85 => ['\\', 'N']
  | 0x2028 => ['\\', 'L']
  | 0x2029 => ['\\', 'P']
  | n =>
    if n ≤ 0xFF then '\\' :: 'x' :: hexDigits 2 n
    else if n ≤ 0xFFFF then '\\' :: 'u' :: hexDigits 4 n
    else '\\' :: 'U' :: hexDigits 8 n

/-- A character between quotes. -/
def quotedChar (c : Char) : List Char :=
  if !TextForm.isPrintable c || TextForm.isBreak c || c == '"' || c == '\\' then escape c else [c]

/-- The lines of a literal block; empty lines are not indented. -/
def blockBody (column : Nat) (atStart : Bool) : List Char → List Char
  | [] => []
  | c :: rest =>
    if TextForm.isBreak c then c :: blockBody column true rest
    else (if atStart then padding column else []) ++ c :: blockBody column false rest

/-- The head of a literal block: a digit when the first line starts with a space or is empty, and a
sign for the line ends at the end. -/
def blockHead (cs : List Char) : List Char :=
  let indentation := match cs with
    | c :: _ => if c == ' ' || TextForm.isBreak c then ['2'] else []
    | [] => []
  let chomping := match cs.reverse with
    | c :: d :: _ =>
      if !TextForm.isBreak c then ['-'] else if TextForm.isBreak d then ['+'] else []
    | [c] => if TextForm.isBreak c then ['+'] else ['-']
    | [] => ['-']
  '|' :: indentation ++ chomping

/-- A text as a scalar whose further lines start at a column, up to the end of its last line. -/
def scalarLine (column : Nat) (s : String) : List Char :=
  let cs := s.toList
  match TextForm.ofText s with
  | .plain => cs ++ ['\n']
  | .apostrophes => '\'' :: apostropheBody column cs ++ ['\'', '\n']
  | .quotes => '"' :: cs.flatMap quotedChar ++ ['"', '\n']
  | .block =>
    let body := blockBody column true cs
    let ending := if (cs.getLast?.map TextForm.isBreak).getD false then [] else ['\n']
    blockHead cs ++ '\n' :: body ++ ending

/-- Whether a key stands before its colon: it is short and holds nothing that ends a line. -/
def isShortKey (key : String) : Bool :=
  key.utf8ByteSize ≤ 128 && !key.toList.any isBreak

/-- The rows of a collection on lines of their own, each at a column. -/
def below (column : Nat) (rows : List (List Char)) : List Char :=
  '\n' :: rows.flatMap fun row => padding column ++ row

/-- The rows of a collection, the first one on the line of the mark before it. -/
def beside (column : Nat) : List (List Char) → List Char
  | [] => []
  | row :: rows => ' ' :: row ++ rows.flatMap fun r => padding column ++ r

/-- A key that takes lines of its own, with what follows its colon. -/
def longEntry (column : Nat) (key : String) (value : List Char) : List Char :=
  '?' :: ' ' :: scalarLine (column + 2) key ++ padding column ++ ':' :: value

/-- What follows a colon or a hyphen for a value that takes one line or is a text. -/
def simpleValue (column : Nat) : Json → List Char
  | .array _ => " []\n".toList
  | .object _ => " \x7b\x7d\n".toList
  | .null => " null\n".toList
  | .bool true => " true\n".toList
  | .bool false => " false\n".toList
  | .number n => ' ' :: (numberText n).toList ++ ['\n']
  | .string s => ' ' :: scalarLine (column + 2) s

mutual

/-- What follows the colon of a key at a column. -/
def afterKey (column : Nat) : Json → List Char
  | .array (x :: xs) => below column (itemRows column (x :: xs))
  | .object (m :: ms) => below (column + 2) (memberRows (column + 2) (m :: ms))
  | j => simpleValue column j

/-- What follows a hyphen at a column. -/
def afterMark (column : Nat) : Json → List Char
  | .array (x :: xs) => beside (column + 2) (itemRows (column + 2) (x :: xs))
  | .object (m :: ms) => beside (column + 2) (memberRows (column + 2) (m :: ms))
  | j => simpleValue column j

/-- The rows of items, each from its hyphen on. -/
def itemRows (column : Nat) : List Json → List (List Char)
  | [] => []
  | x :: xs => ('-' :: afterMark column x) :: itemRows column xs

/-- The rows of members, each from its key on. -/
def memberRows (column : Nat) : List (String × Json) → List (List Char)
  | [] => []
  | (k, v) :: ms =>
    (if isShortKey k then (scalarLine (column + 2) k).dropLast ++ ':' :: afterKey column v
      else longEntry column k (afterMark column v)) :: memberRows column ms

end

/-- The YAML text of a value. -/
def text (j : Json) : String :=
  String.ofList <|
    match j with
    | .array (x :: xs) => (itemRows 0 (x :: xs)).flatten
    | .object (m :: ms) => (memberRows 0 (m :: ms)).flatten
    | j => (afterKey 0 j).drop 1

end Yaml
end ApiResolution
