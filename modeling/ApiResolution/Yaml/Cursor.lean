/-!
A position in YAML text: the characters still to be read, with line and column. A line ends at a line
feed, a carriage return, both together, or one of the three Unicode line ends; the value of a line
break is a line feed except for the line and paragraph separators, which stand for themselves.
-/

namespace ApiResolution
namespace Yaml

/-- A position in a text. -/
structure Cursor where
  rest : List Char
  line : Nat
  column : Nat
  index : Nat
deriving Repr

/-- Whether a character is a space or a tab. -/
def isBlank (c : Char) : Bool := c == ' ' || c == '\t'

/-- Whether a character ends a line. -/
def isBreak (c : Char) : Bool :=
  c == '\n' || c == '\r' || c.toNat == 0x85 || c.toNat == 0x2028 || c.toNat == 0x2029

/-- The byte order mark, which stands for nothing at the start of a text or a line. -/
def byteOrderMark : Char := Char.ofNat 0xFEFF

namespace Cursor

/-- The start of a text. -/
def start (cs : List Char) : Cursor := ⟨cs, 0, 0, 0⟩

/-- The character at the position. -/
def peek? (c : Cursor) : Option Char := c.rest.head?

/-- The character some places further. -/
def peekAt? (c : Cursor) (n : Nat) : Option Char := c.rest[n]?

/-- Whether the text is at its end. -/
def atEnd (c : Cursor) : Bool := c.rest.isEmpty

/-- Whether the character at the position is the given one. -/
def sees (c : Cursor) (x : Char) : Bool := c.peek? == some x

/-- Whether a blank, a line break or the end is some places further. -/
def blankAt (c : Cursor) (n : Nat) : Bool :=
  match c.peekAt? n with
  | some x => isBlank x || isBreak x
  | none => true

/-- Whether a space or a tab is at the position. -/
def seesBlank (c : Cursor) : Bool := (c.peek?.map isBlank).getD false

/-- Whether a line break is at the position. -/
def seesBreak (c : Cursor) : Bool := (c.peek?.map isBreak).getD false

/-- Moves over one character that is no line break. -/
def skip (c : Cursor) : Cursor :=
  match c.rest with
  | _ :: rest => ⟨rest, c.line, c.column + 1, c.index + 1⟩
  | [] => c

/-- Moves over some characters that are no line breaks. -/
def skipMany : Nat → Cursor → Cursor
  | 0, c => c
  | n + 1, c => skipMany n c.skip

/-- Moves over a line break and gives its value; at no line break nothing happens. -/
def readBreak (c : Cursor) : List Char × Cursor :=
  match c.rest with
  | '\r' :: '\n' :: rest => (['\n'], ⟨rest, c.line + 1, 0, c.index + 2⟩)
  | x :: rest =>
    if isBreak x then
      ([if x.toNat == 0x2028 || x.toNat == 0x2029 then x else '\n'],
        ⟨rest, c.line + 1, 0, c.index + 1⟩)
    else ([], c)
  | [] => ([], c)

/-- Whether a document marker, `---` or `...`, stands at the start of the line. -/
def seesMarker (c : Cursor) : Bool :=
  c.column == 0 && c.blankAt 3 &&
    (match c.rest with
      | '-' :: '-' :: '-' :: _ => true
      | '.' :: '.' :: '.' :: _ => true
      | _ => false)

/-- Moves over characters as long as they satisfy a test; the test holds for no line break. -/
def skipWhile (p : Char → Bool) (c : Cursor) : Cursor :=
  c.skipMany (c.rest.takeWhile p).length

/-- Moves to the end of the line. -/
def skipLine (c : Cursor) : Cursor := c.skipWhile fun x => !isBreak x

end Cursor
end Yaml
end ApiResolution
