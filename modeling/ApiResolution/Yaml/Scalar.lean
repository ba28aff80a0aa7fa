import ApiResolution.Yaml.PlainValue

/-!
Scalars of YAML text: the text, how it was written, and the tag before it. A scalar is read in one of
two ways. Where its type is known it is read as that type: a text takes the text whatever it looks
like, and only plain scalars, or literal blocks with the tag of the type, are truth values and counts.
Where its type is not known it first becomes the value that tag and spelling denote.
-/

namespace ApiResolution
namespace Yaml

/-- How a scalar is written: without quotes, as a literal block, or in any other way. -/
inductive ScalarStyle where
  | plain
  | literal
  | quoted
deriving DecidableEq, Repr

/-- The tags of the core types. -/
def coreTag (type : String) : String := "tag:yaml.org,2002:" ++ type

/-- Whether a tag is local: its meaning is known to one application only. -/
def isLocalTag (tag : Option String) : Bool := tag.any fun t => t.toList.head? == some '!'

/-- A scalar. -/
structure Scalar where
  style : ScalarStyle
  tag : Option String
  text : String
deriving DecidableEq, Repr

namespace Scalar

/-- What stands where a node was left out. -/
def empty : Scalar := ⟨.plain, none, ""⟩

/-- Whether nothing is written, so that the scalar may stand for an empty collection. -/
def isEmpty (s : Scalar) : Bool := s.style == .plain && s.text == ""

/-- The value that a scalar denotes. A core tag asks for its type, any other tag for a text; a local
tag denotes no value. -/
def value? (s : Scalar) : Option PlainValue :=
  match s.tag with
  | none => some (if s.style = .plain then .ofText s.text else .text s.text)
  | some tag =>
    if isLocalTag s.tag then none
    else if tag = coreTag "bool" then (PlainValue.bool? s.text).map .bool
    else if tag = coreTag "int" then PlainValue.int? s.text
    else if tag = coreTag "float" then PlainValue.float? s.text
    else if tag = coreTag "null" then if PlainValue.isNullWord s.text then some .null else none
    else some (.text s.text)

/-- Whether a scalar in an optional place stands for its absence. Only plain scalars do; under the
null tag every other plain scalar is refused. -/
def isAbsent? (s : Scalar) : Option Bool :=
  if s.style ≠ .plain then some false
  else
    match s.tag with
    | none => some (PlainValue.isNull s.text)
    | some tag =>
      if tag = coreTag "null" then if PlainValue.isNullWord s.text then some true else none
      else some false

/-- Whether a scalar may be read as a core type: it is plain, or a literal block with the tag of the
type. -/
def mayBe (type : String) (s : Scalar) : Bool :=
  s.style == .plain || (s.style == .literal && s.tag == some (coreTag type))

/-- The truth value of a scalar. -/
def bool? (s : Scalar) : Option Bool := if s.mayBe "bool" then PlainValue.bool? s.text else none

/-- Whether the text starts with a minus sign. -/
def hasMinus (s : Scalar) : Bool := s.text.toList.head? == some '-'

/-- The count that a scalar denotes: an integer without a minus sign that fits 64 bits. -/
def count? (s : Scalar) : Option Nat :=
  if s.mayBe "int" && !s.hasMinus then
    match PlainValue.int? s.text with
    | some (.number (.integer n)) => some n.toNat
    | _ => none
  else none

end Scalar
end Yaml
end ApiResolution
