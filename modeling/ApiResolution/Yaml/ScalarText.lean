import ApiResolution.Yaml.PlainValue
import ApiResolution.Yaml.Cursor

/-!
Scalars of YAML text. Plain and quoted scalars may span lines: one line break inside is read as a
space and of several the first is dropped. Block scalars keep their lines (`|`) or fold them (`>`).
Every function gives the value and the position behind the scalar, or nothing when the text is no
scalar. The fuel arguments bound the number of lines or characters and never run out.
-/

namespace ApiResolution
namespace Yaml

/-- White space between two pieces of a scalar: blanks, or line breaks. -/
inductive Gap where
  | blanks (text : List Char)
  | breaks (first : List Char) (others : List Char)

namespace Gap

/-- What a gap contributes to the value: a single line break becomes a space, and of several line
breaks the first one is dropped unless it stands for itself. -/
def fold : Gap → List Char
  | blanks text => text
  | breaks first others =>
    if first == ['\n'] then (if others.isEmpty then [' '] else others) else first ++ others

/-- Whether the gap has a line break. -/
def hasBreak : Gap → Bool
  | blanks _ => false
  | breaks _ _ => true

/-- Reads a gap. A tab left of `indent` after a line break is refused. -/
def read? (indent : Int) : Nat → Gap → Cursor → Option (Gap × Cursor)
  | 0, _, _ => none
  | fuel + 1, gap, c =>
    match c.peek? with
    | none => some (gap, c)
    | some x =>
      if isBlank x then
        match gap with
        | blanks text => read? indent fuel (blanks (text ++ [x])) c.skip
        | breaks first others =>
          if x == '\t' && decide ((c.column : Int) < indent) then none
          else read? indent fuel (breaks first others) c.skip
      else if isBreak x then
        let (value, next) := c.readBreak
        match gap with
        | blanks _ => read? indent fuel (breaks value []) next
        | breaks first others => read? indent fuel (breaks first (others ++ value)) next
      else some (gap, c)

end Gap

/-- Whether a colon may not stand before this character in a flow collection. -/
def isFlowStop (x : Char) : Bool :=
  x == ',' || x == '[' || x == ']' || x == '{' || x == '}'

/-- The characters of a plain scalar up to the next blank or the end of the scalar. -/
def plainWord? (inFlow : Bool) : Nat → List Char → Cursor → Option (List Char × Cursor)
  | 0, _, _ => none
  | fuel + 1, acc, c =>
    match c.peek? with
    | none => some (acc.reverse, c)
    | some x =>
      let next := c.peekAt? 1
      if isBlank x || isBreak x then some (acc.reverse, c)
      else if inFlow && x == ':' && (next.map fun y => isFlowStop y || y == '?').getD false then none
      else if (x == ':' && c.blankAt 1) || (inFlow && isFlowStop x) then some (acc.reverse, c)
      else plainWord? inFlow fuel (x :: acc) c.skip

/-- The rest of a plain scalar after the value `acc` and a gap. Gives the value, whether a line
break follows it, and the position. -/
def plainFrom? (inFlow : Bool) (indent : Int) :
    Nat → List Char → Gap → Cursor → Option (List Char × Bool × Cursor)
  | 0, _, _, _ => none
  | fuel + 1, acc, gap, c =>
    if c.seesMarker || c.sees '#' then some (acc, gap.hasBreak, c)
    else do
      let (word, c) ← plainWord? inFlow (c.rest.length + 1) [] c
      let (acc, gap) := if word.isEmpty then (acc, gap) else (acc ++ gap.fold ++ word, .blanks [])
      if !(c.seesBlank || c.seesBreak) then some (acc, gap.hasBreak, c)
      else
        let (gap, c) ← Gap.read? indent (c.rest.length + 1) gap c
        if !inFlow && decide ((c.column : Int) < indent) then some (acc, gap.hasBreak, c)
        else plainFrom? inFlow indent fuel acc gap c

/-- Reads a plain scalar. -/
def plainScalar? (inFlow : Bool) (indent : Int) (c : Cursor) :
    Option (String × Bool × Cursor) :=
  (plainFrom? inFlow indent (c.rest.length + 1) [] (.blanks []) c).map fun (cs, broken, c) =>
    (String.ofList cs, broken, c)

/-- The character of an escape letter, and how many hexadecimal digits follow those without one. -/
def escape? (x : Char) : Option (Sum Char Nat) :=
  match x with
  | '0' => some (.inl (Char.ofNat 0))
  | 'a' => some (.inl (Char.ofNat 7))
  | 'b' => some (.inl (Char.ofNat 8))
  | 't' => some (.inl '\t')
  | '\t' => some (.inl '\t')
  | 'n' => some (.inl '\n')
  | 'v' => some (.inl (Char.ofNat 11))
  | 'f' => some (.inl (Char.ofNat 12))
  | 'r' => some (.inl '\r')
  | 'e' => some (.inl (Char.ofNat 27))
  | ' ' => some (.inl ' ')
  | '"' => some (.inl '"')
  | '/' => some (.inl '/')
  | '\\' => some (.inl '\\')
  | 'N' => some (.inl (Char.ofNat 0x85))
  | '_' => some (.inl (Char.ofNat 0xA0))
  | 'L' => some (.inl (Char.ofNat 0x2028))
  | 'P' => some (.inl (Char.ofNat 0x2029))
  | 'x' => some (.inr 2)
  | 'u' => some (.inr 4)
  | 'U' => some (.inr 8)
  | _ => none

/-- The character with the code written by some hexadecimal digits. -/
def codePoint? (digits : List Char) (size : Nat) : Option Char := do
  if digits.length < size then none
  else
    let n ← PlainValue.natural? 16 digits
    if (0xD800 ≤ n ∧ n ≤ 0xDFFF) ∨ 0x10FFFF < n then none else some (Char.ofNat n)

/-- The characters of a quoted scalar up to a blank, a line break or the closing quote. The flag
says whether an escaped line break ended them. -/
def quotedWord? (quote : Char) : Nat → List Char → Cursor → Option (List Char × Bool × Cursor)
  | 0, _, _ => none
  | fuel + 1, acc, c =>
    match c.rest with
    | [] => some (acc.reverse, false, c)
    | x :: tail =>
      if isBlank x || isBreak x then some (acc.reverse, false, c)
      else if x == quote then
        if quote == '\'' && tail.head? == some '\'' then
          quotedWord? quote fuel ('\'' :: acc) c.skip.skip
        else some (acc.reverse, false, c)
      else if x == '\\' && quote == '"' then
        match tail with
        | [] => none
        | y :: digits =>
          if isBreak y then some (acc.reverse, true, c.skip.readBreak.2)
          else
            match escape? y with
            | some (.inl z) => quotedWord? quote fuel (z :: acc) c.skip.skip
            | some (.inr size) => do
              let z ← codePoint? (digits.take size) size
              quotedWord? quote fuel (z :: acc) (c.skipMany (2 + size))
            | none => none
      else quotedWord? quote fuel (x :: acc) c.skip

/-- The rest of a quoted scalar after its opening quote. -/
def quotedFrom? (quote : Char) : Nat → List Char → Cursor → Option (List Char × Cursor)
  | 0, _, _ => none
  | fuel + 1, acc, c =>
    if c.seesMarker || c.atEnd then none
    else do
      let (word, broken, c) ← quotedWord? quote (c.rest.length + 1) [] c
      if c.sees quote && !broken then some (acc ++ word, c.skip)
      else
        let gap := if broken then Gap.breaks [] [] else .blanks []
        let (gap, c) ← Gap.read? 0 (c.rest.length + 1) gap c
        quotedFrom? quote fuel (acc ++ word ++ gap.fold) c

/-- Reads a quoted scalar at its opening quote. -/
def quotedScalar? (quote : Char) (c : Cursor) : Option (String × Cursor) :=
  (quotedFrom? quote (c.rest.length + 1) [] c.skip).map fun (cs, c) => (String.ofList cs, c)

/-- What happens to the line breaks at the end of a block scalar. -/
inductive Chomping where
  | strip
  | clip
  | keep
deriving DecidableEq

/-- The sign at a position, as a rule for the last line breaks. -/
def chomping? (c : Cursor) : Option Chomping :=
  if c.sees '+' then some .keep else if c.sees '-' then some .strip else none

/-- The digit at a position, as an indentation; zero is refused by `none`. -/
def indentation? (c : Cursor) : Option (Nat × Cursor) :=
  match c.peek? with
  | some x =>
    if x.isDigit then if x == '0' then none else some (x.toNat - 48, c.skip)
    else some (0, c)
  | none => some (0, c)

/-- The signs behind the indicator of a block scalar; an indentation of zero means none. -/
def blockHeader? (c : Cursor) : Option (Chomping × Nat × Cursor) :=
  match chomping? c with
  | some chomp => (indentation? c.skip).map fun (n, c) => (chomp, n, c)
  | none => do
    let (n, c) ← indentation? c
    match chomping? c with
    | some chomp => if n = 0 then some (.clip, 0, c) else some (chomp, n, c.skip)
    | none => some (.clip, n, c)

/-- Reads empty lines and the indentation of the next line. Gives the line breaks, the widest
indentation seen, and the position; `indent` zero means that it is still to be found. -/
def blockBreaks? (indent : Nat) : Nat → List Char → Nat → Cursor → Option (List Char × Nat × Cursor)
  | 0, _, _, _ => none
  | fuel + 1, breaks, widest, c =>
    let spaces := (c.rest.takeWhile (· == ' ')).length
    let c := c.skipMany (if indent = 0 then spaces else min spaces (indent - c.column))
    let widest := max widest c.column
    if (indent = 0 || c.column < indent) && c.sees '\t' then none
    else if c.seesBreak then
      let (value, next) := c.readBreak
      blockBreaks? indent fuel (breaks ++ value) widest next
    else some (breaks, widest, c)

/-- The lines of a block scalar. `first` is the line break behind the last line, `others` those of
the empty lines after it, and `indented` says whether the last line started with a blank. -/
def blockLines? (literal : Bool) (indent : Nat) :
    Nat → List Char → List Char → List Char → Bool → Cursor →
      Option (List Char × List Char × List Char × Cursor)
  | 0, _, _, _, _, _ => none
  | fuel + 1, acc, first, others, indented, c =>
    if c.column == indent && !c.atEnd then do
      let blank := c.seesBlank
      let joined :=
        if !literal && first == ['\n'] && !indented && !blank then
          (if others.isEmpty then [' '] else [])
        else first
      let lineText := c.rest.takeWhile fun x => !isBreak x
      let c := c.skipMany lineText.length
      let (value, c) := c.readBreak
      let (breaks, _, c) ← blockBreaks? indent (c.rest.length + 1) [] 0 c
      blockLines? literal indent fuel (acc ++ joined ++ others ++ lineText) value breaks blank c
    else some (acc, first, others, c)

/-- Reads a block scalar at its indicator inside a block of the given indentation. -/
def blockScalar? (literal : Bool) (outer : Int) (c : Cursor) : Option (String × Cursor) := do
  let (chomp, increment, c) ← blockHeader? c.skip
  let c := c.skipWhile isBlank
  let c := if c.sees '#' then c.skipLine else c
  if !(c.atEnd || c.seesBreak) then none
  else
    let (_, c) := c.readBreak
    let given := if increment = 0 then 0 else (max outer 0).toNat + increment
    let (breaks, widest, c) ← blockBreaks? given (c.rest.length + 1) [] 0 c
    let indent := if given = 0 then max (max widest (outer + 1).toNat) 1 else given
    let (acc, first, others, c) ←
      blockLines? literal indent (c.rest.length + 1) [] [] breaks false c
    let tail := match chomp with
      | .strip => []
      | .clip => first
      | .keep => first ++ others
    some (String.ofList (acc ++ tail), c)

end Yaml
end ApiResolution
