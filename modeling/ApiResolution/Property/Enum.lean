import ApiResolution.Property.OfSchema

/-!
Enum members. The members of an enum are named after its values without their common stem; equal
names are told apart by the places of their values. A default value that is a member is written as
that member.
-/

namespace ApiResolution
namespace EnumValues

/-- The longest common beginning of two lists. -/
def commonPrefix : List Char → List Char → List Char
  | c :: cs, d :: ds => if c = d then c :: commonPrefix cs ds else []
  | _, _ => []

/-- A text without the run of ASCII letters and digits at its end. -/
def dropWord (cs : List Char) : List Char := (cs.reverse.dropWhile Char.isAlphanum).reverse

/-- The common beginning of two or more texts without the word that it breaks off in; nothing for
fewer values and for values that are not all texts. -/
def stem (values : List Json) : List Char :=
  match values.mapM Json.string? with
  | some (first :: second :: rest) =>
    dropWord ((second :: rest).foldl (fun acc s => commonPrefix acc s.toList) first.toList)
  | _ => []

/-- What a member is named after: its value as text without the stem, unless nothing would be
left. -/
def displayName (stem : List Char) : Json → String
  | .null => "null"
  | value =>
    let text := plainText value
    let rest := text.toList.drop stem.length
    if stem.isEmpty || rest.isEmpty then text else String.ofList rest

/-- Renames every later or earlier member that has the name of the member at place `i`, by the
renamed member's own place. -/
def renameLike (i : Nat) (members : List EnumMember) : List EnumMember :=
  match members[i]? with
  | none => members
  | some m => members.zipIdx.map fun (other, j) =>
    if i ≠ j ∧ other.name = m.name then { other with name := m.name ++ "_" ++ toString j } else other

/-- Tells members with equal names apart, for each place in turn. -/
def distinguish (members : List EnumMember) : List EnumMember :=
  (List.range members.length).foldl (fun ms i => renameLike i ms) members

/-- The members of an enum over a type. -/
def membersOf (v : Conventions) (values : List Json) (datatype : String) : List EnumMember :=
  let shared := stem values
  distinguish (values.map fun value =>
    { name := v.enumMemberName (displayName shared value) datatype
      literal := v.enumValueLiteral value datatype })

end EnumValues

namespace Property

/-- Gives the listed values of a property their members. -/
def setMembers (members : List EnumMember) (p : Property) : Property :=
  { p with enumValues := p.enumValues.map fun e => { e with members } }

/-- The member whose value has the given text. -/
def memberOf? (values : List Json) (members : List EnumMember) (text : String) :
    Option EnumMember :=
  (values.findIdx? fun value => plainText value == text).bind fun i => members[i]?

/-- A default value that is a member of an enum is written as that member. -/
def nameDefault (v : Conventions) (values : List Json) (members : List EnumMember) (p : Property) :
    Property :=
  match p.defaultText.bind (memberOf? values members) with
  | some m => { p with defaultText := some (v.enumDefault m.name p.datatypeWithEnum) }
  | none => p

/-- Names the members of the enum at the end of a chain, there and at its outermost level. -/
def nameEnum (v : Conventions) (p : Property) : Property :=
  let leaf := p.innermost
  match leaf.enumValues with
  | none => p
  | some e =>
    let members := EnumValues.membersOf v e.values leaf.datatype
    mapInnermost (setMembers members) (setMembers members (nameDefault v e.values members p))

/-- Names the members of an enum; other properties stay as they are. -/
def nameIfEnum (v : Conventions) (p : Property) : Property := if p.isEnum then nameEnum v p else p

end Property
end ApiResolution
