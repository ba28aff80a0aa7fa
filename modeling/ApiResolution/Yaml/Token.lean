import ApiResolution.Text.Percent
import ApiResolution.Yaml.Scalar
import ApiResolution.Yaml.ScalarText

/-!
Tokens of YAML text. Blocks have no brackets of their own: their start and end follow from the
columns of their entries, and a mapping key is recognised only at the colon behind it, so a position
where a key may have started is remembered until then.
-/

namespace ApiResolution
namespace Yaml

/-- A token. Starts and ends of blocks carry no text. A tag is a handle, whose meaning a directive may
give, and a suffix; the handle is empty when the suffix is the whole tag. -/
inductive Token where
  | version (major minor : Nat)
  | handle (handle meaning : String)
  | documentStart
  | documentEnd
  | streamEnd
  | blockSequenceStart
  | blockMappingStart
  | blockEnd
  | flowSequenceStart
  | flowSequenceEnd
  | flowMappingStart
  | flowMappingEnd
  | blockEntry
  | flowEntry
  | key
  | value
  | alias (name : String)
  | anchor (name : String)
  | tag (handle suffix : String)
  | scalar (style : ScalarStyle) (text : String)
deriving DecidableEq, Repr

/-- A place where a mapping key may have started: the number of tokens before it and its position.
A required key starts a line of the current block, so that a colon has to follow. -/
structure KeyStart where
  before : Nat
  line : Nat
  column : Nat
  index : Nat
  required : Bool
deriving Repr

/-- What is known while tokens are read: the position, the indentation of the blocks around it, one
possible key start for each flow collection around it and one for the block, whether a key may start
here, and the tokens so far. -/
structure Lexer where
  cursor : Cursor
  indent : Int
  outerIndents : List Int
  keyStart : Option KeyStart
  outerKeyStarts : List (Option KeyStart)
  keyAllowed : Bool
  tokens : Array Token

namespace Lexer

/-- The state at the start of a text. -/
def start (cs : List Char) : Lexer :=
  { cursor := .start cs, indent := -1, outerIndents := [], keyStart := none, outerKeyStarts := []
    keyAllowed := true, tokens := #[] }

/-- Whether the position is inside a flow collection. -/
def inFlow (l : Lexer) : Bool := !l.outerKeyStarts.isEmpty

/-- Adds a token. -/
def emit (l : Lexer) (t : Token) : Lexer := { l with tokens := l.tokens.push t }

/-- Adds a token before those from a number on. -/
def emitAt (l : Lexer) (n : Nat) (t : Token) : Lexer :=
  { l with tokens := (l.tokens.extract 0 n).push t ++ l.tokens.extract n l.tokens.size }

/-- Moves over some characters. -/
def skip (l : Lexer) (n : Nat) : Lexer := { l with cursor := l.cursor.skipMany n }

/-- Sets whether a key may start at the position. -/
def allowKey (l : Lexer) (allowed : Bool) : Lexer := { l with keyAllowed := allowed }

/-- Whether a key start is still good: a key is on one line and at most 1024 characters long. -/
def isCurrent (l : Lexer) (k : KeyStart) : Bool :=
  k.line == l.cursor.line && decide (l.cursor.index ≤ k.index + 1024)

/-- Gives up the possible key; one that is required may not be given up. -/
def dropKey? (l : Lexer) : Option Lexer :=
  match l.keyStart with
  | some k => if k.required then none else some { l with keyStart := none }
  | none => some l

/-- Gives up possible keys that are no longer good. -/
def dropStaleKeys? (l : Lexer) : Option Lexer :=
  let stale (k : Option KeyStart) : Bool :=
    match k with
    | some k => !l.isCurrent k
    | none => false
  let bad (k : Option KeyStart) : Bool :=
    match k with
    | some k => k.required && !l.isCurrent k
    | none => false
  if bad l.keyStart || l.outerKeyStarts.any bad then none
  else some { l with
    keyStart := if stale l.keyStart then none else l.keyStart
    outerKeyStarts := l.outerKeyStarts.map fun k => if stale k then none else k }

/-- Remembers that a key may start at the position. -/
def rememberKey? (l : Lexer) : Option Lexer :=
  if !l.keyAllowed then some l
  else do
    let required := !l.inFlow && l.indent == l.cursor.column
    let k : KeyStart :=
      { before := l.tokens.size, line := l.cursor.line, column := l.cursor.column
        index := l.cursor.index, required }
    let l ← l.dropKey?
    some { l with keyStart := some k }

/-- Opens a block at a column right of the current one: its start token comes before those from
a number on. -/
def openBlock (l : Lexer) (column : Nat) (n : Nat) (t : Token) : Lexer :=
  if l.inFlow then l
  else if l.indent < column then
    { l.emitAt n t with indent := column, outerIndents := l.indent :: l.outerIndents }
  else l

/-- Closes the blocks whose column lies right of the given one. -/
def closeBlocks (column : Int) : List Int → Lexer → Lexer
  | outer, l =>
    if l.inFlow || l.indent ≤ column then l
    else
      match outer with
      | o :: os => closeBlocks column os { l.emit .blockEnd with indent := o, outerIndents := os }
      | [] => l

/-- Closes blocks down to a column. -/
def closeTo (l : Lexer) (column : Int) : Lexer := closeBlocks column l.outerIndents l

/-- Moves over blanks, comments and line breaks. Outside of flow collections a key may start after
a line break, and where a key may start, a tab is no blank. A byte order mark may start a line. -/
def skipGap : Nat → Lexer → Lexer
  | 0, l => l
  | fuel + 1, l =>
    let tabs := l.inFlow || !l.keyAllowed
    let c := if l.cursor.column == 0 && l.cursor.sees byteOrderMark then l.cursor.skip else l.cursor
    let c := c.skipWhile fun x => x == ' ' || (tabs && x == '\t')
    let c := if c.sees '#' then c.skipLine else c
    if c.seesBreak then
      skipGap fuel { l with cursor := c.readBreak.2, keyAllowed := l.keyAllowed || !l.inFlow }
    else { l with cursor := c }

/-- Whether a character may be part of the name of an anchor. -/
def isAnchorChar (x : Char) : Bool := x.isAlphanum || x == '_' || x == '-'

/-- Reads an anchor or an alias. -/
def anchor? (l : Lexer) (make : String → Token) : Option Lexer := do
  let l ← l.rememberKey?
  let name := (l.cursor.rest.drop 1).takeWhile isAnchorChar
  let l := (l.allowKey false).skip (1 + name.length)
  let ends := l.cursor.blankAt 0 || (l.cursor.peek?.map fun x => "?:,]\x7d%@`".toList.contains x).getD false
  if name.isEmpty || !ends then none else some (l.emit (make (String.ofList name)))

/-- The number of bytes of a character that starts with the given byte. -/
def byteCount? (b : Nat) : Option Nat :=
  if b < 0x80 then some 1
  else if b / 0x20 = 6 then some 2
  else if b / 0x10 = 14 then some 3
  else if b / 0x8 = 30 then some 4
  else none

/-- The byte written by a percent sign and two hexadecimal digits. -/
def escapedByte? : List Char → Option Nat
  | '%' :: high :: low :: _ => do
    let h ← Text.hexDigitValue? high
    let l ← Text.hexDigitValue? low
    some (16 * h + l)
  | _ => none

/-- The further bytes of an escaped character. -/
def escapedTail? : Nat → List Char → Option (List Nat)
  | 0, _ => some []
  | n + 1, cs => do
    let b ← escapedByte? cs
    if b / 0x40 = 2 then
      let bs ← escapedTail? n (cs.drop 3)
      some (b :: bs)
    else none

/-- The character written by escaped bytes, and how many of them there are. -/
def escapedChar? (cs : List Char) : Option (List Char × Nat) := do
  let b ← escapedByte? cs
  let n ← byteCount? b
  let bs ← escapedTail? (n - 1) (cs.drop 3)
  some (Text.decodeUtf8 (b :: bs), n)

/-- Whether a character may stand in a tag; brackets and commas only between angle brackets. -/
def isTagChar (verbatim : Bool) (x : Char) : Bool :=
  isAnchorChar x || ";/?:@&=+$.%!~*'()".toList.contains x ||
    (verbatim && (x == ',' || x == '[' || x == ']'))

/-- The characters of a tag at the position. -/
def tagText? (verbatim : Bool) : Nat → List Char → Cursor → Option (List Char × Cursor)
  | 0, _, _ => none
  | fuel + 1, acc, c =>
    match c.peek? with
    | some '%' => do
      let (text, n) ← escapedChar? c.rest
      tagText? verbatim fuel (text.reverse ++ acc) (c.skipMany (3 * n))
    | some x =>
      if isTagChar verbatim x then tagText? verbatim fuel (x :: acc) c.skip
      else some (acc.reverse, c)
    | none => some (acc.reverse, c)

/-- The nonempty text of a tag, or of the meaning of a handle. -/
def nonemptyTagText? (verbatim : Bool) (c : Cursor) : Option (List Char × Cursor) :=
  match tagText? verbatim (c.rest.length + 1) [] c with
  | some ([], _) => none
  | result => result

/-- The handle at an exclamation mark: a second exclamation mark ends it; without one, the flag is
false and the text belongs to the suffix of the short handle. -/
def tagHandle (c : Cursor) : List Char × Bool × Cursor :=
  let c := c.skip
  let name := c.rest.takeWhile isAnchorChar
  let c := c.skipMany name.length
  if c.sees '!' then ('!' :: name ++ ['!'], true, c.skip) else (name, false, c)

/-- The handle and the suffix of a tag at its exclamation mark. -/
def tagParts? (c : Cursor) : Option (List Char × List Char × Cursor) :=
  if c.peekAt? 1 == some '<' then do
    let (suffix, c) ← nonemptyTagText? true c.skip.skip
    if c.sees '>' then some ([], suffix, c.skip) else none
  else
    match tagHandle c with
    | (name, true, c) => do
      let (suffix, c) ← nonemptyTagText? false c
      some (name, suffix, c)
    | (name, false, c) => do
      let (rest, c) ← tagText? false (c.rest.length + 1) [] c
      if (name ++ rest).isEmpty then some ([], ['!'], c) else some (['!'], name ++ rest, c)

/-- Reads a tag. -/
def tag? (l : Lexer) : Option Lexer := do
  let l ← l.rememberKey?
  let (name, suffix, c) ← tagParts? l.cursor
  if c.blankAt 0 || (l.inFlow && c.sees ',') then
    some ({ l with cursor := c, keyAllowed := false }.emit
      (.tag (String.ofList name) (String.ofList suffix)))
  else none

/-- Reads a quoted scalar. -/
def quoted? (l : Lexer) (quote : Char) : Option Lexer := do
  let l ← l.rememberKey?
  let (s, c) ← quotedScalar? quote l.cursor
  some ({ l with cursor := c, keyAllowed := false }.emit (.scalar .quoted s))

/-- Reads a block scalar. -/
def block? (l : Lexer) (literal : Bool) : Option Lexer := do
  let l ← l.dropKey?
  let (s, c) ← blockScalar? literal l.indent l.cursor
  some ({ l with cursor := c, keyAllowed := true }.emit
    (.scalar (if literal then .literal else .quoted) s))

/-- Reads a plain scalar; after one that ends with a line break a key may start. -/
def plain? (l : Lexer) : Option Lexer := do
  let l ← l.rememberKey?
  let (s, broken, c) ← plainScalar? l.inFlow (l.indent + 1) l.cursor
  some ({ l with cursor := c, keyAllowed := broken }.emit (.scalar .plain s))

/-- Opens a flow collection. -/
def openFlow? (l : Lexer) (t : Token) : Option Lexer := do
  let l ← l.rememberKey?
  some ({ l with
    keyStart := none, outerKeyStarts := l.keyStart :: l.outerKeyStarts, keyAllowed := true
    cursor := l.cursor.skip }.emit t)

/-- Closes a flow collection. -/
def closeFlow? (l : Lexer) (t : Token) : Option Lexer := do
  let l ← l.dropKey?
  let l := match l.outerKeyStarts with
    | k :: ks => { l with keyStart := k, outerKeyStarts := ks }
    | [] => l
  some (((l.allowKey false).skip 1).emit t)

/-- Reads a comma between entries of a flow collection. -/
def flowEntry? (l : Lexer) : Option Lexer := do
  let l ← l.dropKey?
  some (((l.allowKey true).skip 1).emit .flowEntry)

/-- Reads the hyphen before an entry of a block sequence. -/
def blockEntry? (l : Lexer) : Option Lexer := do
  let l ←
    if l.inFlow then some l
    else if l.keyAllowed then
      some (l.openBlock l.cursor.column l.tokens.size .blockSequenceStart)
    else none
  let l ← l.dropKey?
  some (((l.allowKey true).skip 1).emit .blockEntry)

/-- Reads the question mark before a key. -/
def key? (l : Lexer) : Option Lexer := do
  let l ←
    if l.inFlow then some l
    else if l.keyAllowed then some (l.openBlock l.cursor.column l.tokens.size .blockMappingStart)
    else none
  let l ← l.dropKey?
  some (((l.allowKey !l.inFlow).skip 1).emit .key)

/-- Reads the colon before a value. Behind a possible key, the key token and the start of its block
come before the key; otherwise the value belongs to a key after a question mark. -/
def value? (l : Lexer) : Option Lexer := do
  match l.keyStart with
  | some k =>
    let l := (l.emitAt k.before .key).openBlock k.column k.before .blockMappingStart
    some (({ l with keyStart := none, keyAllowed := false }.skip 1).emit .value)
  | none =>
    let l ←
      if l.inFlow then some l
      else if l.keyAllowed then
        some (l.openBlock l.cursor.column l.tokens.size .blockMappingStart)
      else none
    some (((l.allowKey !l.inFlow).skip 1).emit .value)

/-- Reads a document marker. -/
def marker? (l : Lexer) : Option Lexer := do
  let t := if l.cursor.sees '-' then Token.documentStart else .documentEnd
  let l ← (l.closeTo (-1)).dropKey?
  some (((l.allowKey false).skip 3).emit t)

/-- A number of at most nine digits in a version. -/
def versionNumber? (c : Cursor) : Option (Nat × Cursor) := do
  let ds := c.rest.takeWhile Char.isDigit
  let n ← PlainValue.natural? 10 ds
  if 9 < ds.length then none else some (n, c.skipMany ds.length)

/-- The version behind the name of its directive. -/
def version? (c : Cursor) : Option (Token × Cursor) := do
  let (major, c) ← versionNumber? (c.skipWhile isBlank)
  if c.sees '.' then
    let (minor, c) ← versionNumber? c.skip
    some (.version major minor, c)
  else none

/-- The handle and its meaning behind the name of their directive. -/
def handle? (c : Cursor) : Option (Token × Cursor) := do
  let c := c.skipWhile isBlank
  if !c.sees '!' then none
  else
    let (name, ended, c) := tagHandle c
    let name ← if ended then some name else if name.isEmpty then some ['!'] else none
    if !c.seesBlank then none
    else
      let (meaning, c) ← nonemptyTagText? true (c.skipWhile isBlank)
      if c.blankAt 0 then some (.handle (String.ofList name) (String.ofList meaning), c) else none

/-- Reads a directive, which takes a whole line. -/
def directive? (l : Lexer) : Option Lexer := do
  let l ← (l.closeTo (-1)).dropKey?
  let c := l.cursor.skip
  let name := c.rest.takeWhile isAnchorChar
  let c := c.skipMany name.length
  if !c.blankAt 0 then none
  else
    let (t, c) ←
      if name == "YAML".toList then version? c
      else if name == "TAG".toList then handle? c
      else none
    let c := c.skipWhile isBlank
    let c := if c.sees '#' then c.skipLine else c
    if c.atEnd || c.seesBreak then some ({ l with cursor := c, keyAllowed := false }.emit t)
    else none

/-- Whether a plain scalar may start with the character at the position. -/
def startsPlain (l : Lexer) : Bool :=
  match l.cursor.peek? with
  | none => false
  | some x =>
    (!l.cursor.blankAt 0 && !("-?:,[]\x7b\x7d#&*!|>'\"%@`".toList.contains x)) ||
    (x == '-' && !((l.cursor.peekAt? 1).map isBlank).getD false) ||
    (!l.inFlow && (x == '?' || x == ':') && !l.cursor.blankAt 1)

/-- Reads the token at a character, all blanks before it being skipped. -/
def token? (l : Lexer) (x : Char) : Option Lexer :=
  if l.cursor.column == 0 && x == '%' then l.directive?
  else if l.cursor.seesMarker then l.marker?
  else if x == '[' then l.openFlow? .flowSequenceStart
  else if x == '{' then l.openFlow? .flowMappingStart
  else if x == ']' then l.closeFlow? .flowSequenceEnd
  else if x == '}' then l.closeFlow? .flowMappingEnd
  else if x == ',' then l.flowEntry?
  else if x == '-' && l.cursor.blankAt 1 then l.blockEntry?
  else if x == '?' && (l.inFlow || l.cursor.blankAt 1) then l.key?
  else if x == ':' && (l.inFlow || l.cursor.blankAt 1) then l.value?
  else if x == '*' then l.anchor? .alias
  else if x == '&' then l.anchor? .anchor
  else if x == '!' then l.tag?
  else if x == '|' && !l.inFlow then l.block? true
  else if x == '>' && !l.inFlow then l.block? false
  else if x == '\'' || x == '"' then l.quoted? x
  else if l.startsPlain then l.plain?
  else none

/-- Reads tokens to the end of the text; every token takes a character. -/
def tokens? : Nat → Lexer → Option (List Token)
  | 0, _ => none
  | fuel + 1, l => do
    let l := skipGap (l.cursor.rest.length + 1) l
    let l ← l.dropStaleKeys?
    let l := l.closeTo l.cursor.column
    match l.cursor.peek? with
    | some x => do
      let l ← l.token? x
      tokens? fuel l
    | none => do
      let l ← (l.closeTo (-1)).dropKey?
      some (l.tokens.toList ++ [.streamEnd])

end Lexer

/-- Whether YAML text may hold the character. -/
def isAllowed (c : Char) : Bool :=
  let n := c.toNat
  n == 9 || n == 10 || n == 13 || (32 ≤ n && n ≤ 126) || n == 0x85 || (0xA0 ≤ n && n ≤ 0xD7FF) ||
    (0xE000 ≤ n && n ≤ 0xFFFD) || 0x10000 ≤ n

/-- The tokens of a text, without the mark of byte order at its start. -/
def tokens? (s : String) : Option (List Token) :=
  let cs := match s.toList with
    | c :: rest => if c == byteOrderMark then rest else c :: rest
    | [] => []
  if cs.all isAllowed then Lexer.tokens? (cs.length + 2) (.start cs) else none

end Yaml
end ApiResolution
