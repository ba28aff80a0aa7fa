import ApiResolution.Entries
import ApiResolution.Yaml.Token

/-!
The tree of a YAML text. A text holds at most one document; an empty one is an empty plain scalar.
An alias is a leaf that carries the number of an anchor, and the node that it stands for is found
in the finished tree: the last one in the order of the text whose anchor has that number.
-/

namespace ApiResolution
namespace Yaml

/-- A node of a text. -/
inductive Node where
  | scalar (s : Scalar)
  | sequence (tag : Option String) (items : List Node)
  | mapping (tag : Option String) (entries : List (Node × Node))
  | anchored (anchor : Nat) (node : Node)
  | alias (anchor : Nat)
deriving Repr, Inhabited

namespace Node

mutual

/-- The size of a node: one for each leaf and two for each collection. -/
def size : Node → Nat
  | scalar _ => 1
  | sequence _ xs => 2 + sizeItems xs
  | mapping _ es => 2 + sizeEntries es
  | anchored _ n => size n
  | .alias _ => 1

/-- The size of the items of a sequence. -/
def sizeItems : List Node → Nat
  | [] => 0
  | x :: xs => size x + sizeItems xs

/-- The size of the entries of a mapping. -/
def sizeEntries : List (Node × Node) → Nat
  | [] => 0
  | (k, v) :: es => size k + size v + sizeEntries es

end

mutual

/-- The nodes with anchors under the numbers of those, the last one of the text first; `found` are
those before the node. -/
def targets : Node → List (Nat × Node) → List (Nat × Node)
  | scalar _, found => found
  | sequence _ xs, found => targetsOfItems xs found
  | mapping _ es, found => targetsOfEntries es found
  | anchored a n, found => targets n ((a, n) :: found)
  | .alias _, found => found

/-- The nodes with anchors in the items of a sequence. -/
def targetsOfItems : List Node → List (Nat × Node) → List (Nat × Node)
  | [], found => found
  | x :: xs, found => targetsOfItems xs (targets x found)

/-- The nodes with anchors in the entries of a mapping. -/
def targetsOfEntries : List (Node × Node) → List (Nat × Node) → List (Nat × Node)
  | [], found => found
  | (k, v) :: es, found => targetsOfEntries es (targets v (targets k found))

end

/-- The node that was left out. -/
def empty : Node := scalar .empty

end Node

/-- The tokens still to be read, the numbers of the anchors so far and the meanings of handles. -/
structure Reader where
  tokens : List Token
  anchors : Entries Nat
  handles : Entries String

namespace Reader

/-- The next token. -/
def peek (r : Reader) : Token := r.tokens.headD .streamEnd

/-- Moves over a token. -/
def skip (r : Reader) : Reader := { r with tokens := r.tokens.drop 1 }

/-- Numbers an anchor: the count of the distinct names before it. A name that is used again gets a
new number, which a later name may then share. -/
def openAnchor (r : Reader) (name : String) : Nat × Reader :=
  let n := r.anchors.length
  (n, { r with anchors := Entries.insert name n r.anchors })

/-- The tag of a handle and a suffix. -/
def tag? (r : Reader) (handle suffix : String) : Option String :=
  if handle.isEmpty then some suffix
  else (Entries.lookup? handle r.handles).map fun meaning => meaning ++ suffix

end Reader

/-- The anchor and the tag before a node. -/
structure Marks where
  anchor : Option Nat
  tag : Option String

namespace Marks

/-- Reads a tag, if there is one. -/
def readTag? (r : Reader) : Option (Option String × Reader) :=
  match r.peek with
  | .tag handle suffix => (r.tag? handle suffix).map fun t => (some t, r.skip)
  | _ => some (none, r)

/-- Reads an anchor, if there is one. -/
def readAnchor (r : Reader) : Option Nat × Reader :=
  match r.peek with
  | .anchor name =>
    let (n, r) := r.skip.openAnchor name
    (some n, r)
  | _ => (none, r)

/-- Reads at most one anchor and at most one tag, in any order. -/
def read? (r : Reader) : Option (Marks × Reader) := do
  match readAnchor r with
  | (some n, r) => do
    let (tag, r) ← readTag? r
    return (⟨some n, tag⟩, r)
  | (none, r) => do
    let (tag, r) ← readTag? r
    if tag.isNone then return (⟨none, none⟩, r)
    else
      let (anchor, r) := readAnchor r
      return (⟨anchor, tag⟩, r)

/-- Whether there is an anchor or a tag, so that the node may be left out. -/
def any (m : Marks) : Bool := m.anchor.isSome || m.tag.isSome

/-- A scalar with the marks; the tag `!` says nothing about it. -/
def scalar (m : Marks) (style : ScalarStyle) (text : String) : Node :=
  .scalar ⟨style, if m.tag = some "!" then none else m.tag, text⟩

/-- The node that was left out behind the marks. -/
def leftOut (m : Marks) : Node := .scalar ⟨.plain, m.tag, ""⟩

/-- A node under the anchor of the marks. -/
def place (m : Marks) (n : Node) : Node :=
  match m.anchor with
  | some a => .anchored a n
  | none => n

end Marks

mutual

/-- Reads a node. `block` says whether block collections may start here, `indentless` whether a
sequence may start without an indentation of its own. -/
def node? : Nat → Bool → Bool → Reader → Option (Node × Reader)
  | 0, _, _, _ => none
  | fuel + 1, block, indentless, r =>
    match r.peek with
    | .alias name => (Entries.lookup? name r.anchors).map fun a => (.alias a, r.skip)
    | _ => do
      let (marks, r) ← Marks.read? r
      let (n, r) ← content? fuel block indentless marks r
      return (marks.place n, r)

/-- Reads what follows the marks of a node; with some of them it may be left out. -/
def content? : Nat → Bool → Bool → Marks → Reader → Option (Node × Reader)
  | 0, _, _, _, _ => none
  | fuel + 1, block, indentless, marks, r =>
    let other := if marks.any then some (marks.leftOut, r) else none
    match r.peek with
    | .blockEntry =>
      if indentless then
        (indentlessItems? fuel r).map fun (xs, r) => (.sequence marks.tag xs, r)
      else other
    | .scalar style text => some (marks.scalar style text, r.skip)
    | .flowSequenceStart =>
      (flowItems? fuel true r.skip).map fun (xs, r) => (.sequence marks.tag xs, r)
    | .flowMappingStart =>
      (flowEntries? fuel true r.skip).map fun (es, r) => (.mapping marks.tag es, r)
    | .blockSequenceStart =>
      if block then (blockItems? fuel r.skip).map fun (xs, r) => (.sequence marks.tag xs, r)
      else other
    | .blockMappingStart =>
      if block then (blockEntries? fuel r.skip).map fun (es, r) => (.mapping marks.tag es, r)
      else other
    | _ => other

/-- Reads the items of a block sequence. -/
def blockItems? : Nat → Reader → Option (List Node × Reader)
  | 0, _ => none
  | fuel + 1, r =>
    match r.peek with
    | .blockEntry => do
      let r := r.skip
      let (x, r) ←
        if r.peek == .blockEntry || r.peek == .blockEnd then some (.empty, r)
        else node? fuel true false r
      let (xs, r) ← blockItems? fuel r
      return (x :: xs, r)
    | .blockEnd => some ([], r.skip)
    | _ => none

/-- Reads the items of a sequence that has the indentation of the mapping around it. -/
def indentlessItems? : Nat → Reader → Option (List Node × Reader)
  | 0, _ => none
  | fuel + 1, r =>
    match r.peek with
    | .blockEntry => do
      let r := r.skip
      let (x, r) ←
        if [Token.blockEntry, .key, .value, .blockEnd].contains r.peek then some (.empty, r)
        else node? fuel true false r
      let (xs, r) ← indentlessItems? fuel r
      return (x :: xs, r)
    | _ => some ([], r)

/-- Reads the entries of a block mapping. -/
def blockEntries? : Nat → Reader → Option (List (Node × Node) × Reader)
  | 0, _ => none
  | fuel + 1, r =>
    match r.peek with
    | .key => do
      let r := r.skip
      let (k, r) ←
        if [Token.key, .value, .blockEnd].contains r.peek then some (.empty, r)
        else node? fuel true true r
      let (v, r) ←
        if r.peek == .value then
          let r := r.skip
          if [Token.key, .value, .blockEnd].contains r.peek then some (.empty, r)
          else node? fuel true true r
        else some (.empty, r)
      let (es, r) ← blockEntries? fuel r
      return ((k, v) :: es, r)
    | .blockEnd => some ([], r.skip)
    | _ => none

/-- Reads the items of a flow sequence; an item with a key is a mapping of its own. A key that is
left out takes the token behind it along. -/
def flowItems? : Nat → Bool → Reader → Option (List Node × Reader)
  | 0, _, _ => none
  | fuel + 1, first, r => do
    if r.peek == .flowSequenceEnd then return ([], r.skip)
    let r ← if first then some r else if r.peek == .flowEntry then some r.skip else none
    if r.peek == .flowSequenceEnd then return ([], r.skip)
    let (x, r) ←
      if r.peek == .key then do
        let r := r.skip
        let (k, r) ←
          if [Token.value, .flowEntry, .flowSequenceEnd].contains r.peek then some (.empty, r.skip)
          else node? fuel false false r
        let (v, r) ← flowValue? fuel .flowSequenceEnd r
        some (.mapping none [(k, v)], r)
      else node? fuel false false r
    let (xs, r) ← flowItems? fuel false r
    return (x :: xs, r)

/-- Reads the value behind a key in a flow collection with the given end; it may be left out. -/
def flowValue? : Nat → Token → Reader → Option (Node × Reader)
  | 0, _, _ => none
  | fuel + 1, ending, r =>
    if r.peek == .value then
      let r := r.skip
      if r.peek == .flowEntry || r.peek == ending then some (.empty, r)
      else node? fuel false false r
    else some (.empty, r)

/-- Reads the entries of a flow mapping; a node without a colon is a key without a value. -/
def flowEntries? : Nat → Bool → Reader → Option (List (Node × Node) × Reader)
  | 0, _, _ => none
  | fuel + 1, first, r => do
    if r.peek == .flowMappingEnd then return ([], r.skip)
    let r ← if first then some r else if r.peek == .flowEntry then some r.skip else none
    if r.peek == .flowMappingEnd then return ([], r.skip)
    let (e, r) ←
      if r.peek == .key then do
        let r := r.skip
        let (k, r) ←
          if [Token.value, .flowEntry, .flowMappingEnd].contains r.peek then some (.empty, r)
          else node? fuel false false r
        let (v, r) ← flowValue? fuel .flowMappingEnd r
        some ((k, v), r)
      else (node? fuel false false r).map fun (k, r) => ((k, .empty), r)
    let (es, r) ← flowEntries? fuel false r
    return (e :: es, r)

end

/-- The handles that need no directive. -/
def commonHandles : Entries String := [("!", "!"), ("!!", coreTag "")]

/-- Reads directives: at most one version, which has to be known, and each handle at most once.
Gives the handles, whether there was a version, and the tokens behind. -/
def directives? : List Token → Entries String → Bool → Option (Entries String × Bool × List Token)
  | .version major minor :: ts, handles, versioned =>
    if versioned || major != 1 || (minor != 1 && minor != 2) then none
    else directives? ts handles true
  | .handle name meaning :: ts, handles, versioned =>
    if Entries.contains name handles then none
    else directives? ts (handles ++ [(name, meaning)]) versioned
  | ts, handles, versioned => some (handles, versioned, ts)

/-- The tree of a list of tokens. Directives need a document marker behind them, and a second
document is refused. -/
def ofTokens? (ts : List Token) : Option Node := do
  let (handles, versioned, body) ← directives? ts [] false
  let reader (tokens : List Token) : Reader := ⟨tokens, [], handles ++ commonHandles⟩
  let read (tokens : List Token) : Option (Node × Reader) :=
    node? (4 * tokens.length + 4) true false (reader tokens)
  let (tree, r) ←
    match body with
    | .documentStart :: body =>
      match body with
      | .version _ _ :: _ => none
      | .handle _ _ :: _ => none
      | .documentStart :: _ => none
      | .documentEnd :: _ => some (Node.empty, reader body)
      | .streamEnd :: _ => some (Node.empty, reader body)
      | _ => read body
    | [.streamEnd] => if versioned || !handles.isEmpty then none else some (Node.empty, reader body)
    | _ => if versioned || !handles.isEmpty then none else read body
  if r.tokens.dropWhile (· == .documentEnd) == [.streamEnd] then some tree else none

/-- The tree of a text. -/
def parse? (s : String) : Option Node :=
  (tokens? s).bind ofTokens?

end Yaml
end ApiResolution
