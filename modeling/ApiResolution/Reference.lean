import ApiResolution.Uri

/-!
Reference texts: which of them point into the document itself, and the name of the component that
they point to. `ofSchemaName` writes the reference to a schema; for a name without percent-encoded
bytes, `componentName?` reads it back.
-/

namespace ApiResolution
namespace Reference

open Identifier (splitWhere)

/-- The part before the first `#` and the part after it. -/
def split (target : String) : String × Option String :=
  let (document, rest) := target.toList.span (· != '#')
  match rest with
  | _ :: fragment => (String.ofList document, some (String.ofList fragment))
  | [] => (target, none)

/-- Whether a text holds `://`. -/
def hasAuthorityMark : List Char → Bool
  | ':' :: '/' :: '/' :: _ => true
  | _ :: rest => hasAuthorityMark rest
  | [] => false

/-- Whether two texts without an authority are the same path. -/
def samePath (document self : String) : Bool :=
  !hasAuthorityMark self.toList && !hasAuthorityMark document.toList &&
    RelativePath.ofString document == RelativePath.ofString self

/-- Whether the document part of a reference names the document with the address `self`. Absolute
addresses are compared by what identifies them; the path of an absolute address may equal a `self`
that starts with a slash; texts that are no absolute addresses are compared as paths. -/
def namesSelf (document self : String) : Bool :=
  if document = self then true
  else
    match Uri.parse? document, Uri.parse? self with
    | some d, some s => d == s
    | some d, none =>
      if self.toList.head? == some '/' then d.path == self else samePath document self
    | none, _ => samePath document self

/-- The pointer of a reference into the document itself, with its leading `#`. -/
def localPointer? (target : String) (self : Option String) : Option String :=
  let (document, fragment) := split target
  match fragment with
  | none => none
  | some fragment =>
    if document.isEmpty then some ("#" ++ fragment)
    else
      match self with
      | some self => if namesSelf document self then some ("#" ++ fragment) else none
      | none => none

/-- Reads `~1` as a slash. -/
def unescapeSlash : List Char → List Char
  | '~' :: '1' :: rest => '/' :: unescapeSlash rest
  | c :: rest => c :: unescapeSlash rest
  | [] => []

/-- Reads `~0` as a tilde. -/
def unescapeTilde : List Char → List Char
  | '~' :: '0' :: rest => '~' :: unescapeTilde rest
  | c :: rest => c :: unescapeTilde rest
  | [] => []

/-- The text of a pointer segment: first the pointer escapes are read, then the percent signs. -/
def decodeSegment (cs : List Char) : List Char :=
  Text.percentDecode (unescapeTilde (unescapeSlash cs))

/-- Writes a text for each occurrence of a character. -/
def replaceChar (old : Char) (new cs : List Char) : List Char :=
  cs.flatMap fun c => if c = old then new else [c]

/-- The pointer segment of a text: first the tildes are escaped, then the slashes. -/
def encodeSegment (cs : List Char) : List Char :=
  replaceChar '/' ['~', '1'] (replaceChar '~' ['~', '0'] cs)

/-- The section and the name of the component that a reference points to. -/
def component? (target : String) (self : Option String) : Option (String × String) :=
  match localPointer? target self with
  | none => none
  | some pointer =>
    let body := (pointer.toList.dropWhile (· == '#')).dropWhile (· == '/')
    match splitWhere (· == '/') body with
    | [root, sectionName, name] =>
      if String.ofList root = "components" then
        let name := decodeSegment name
        if name.isEmpty then none else some (String.ofList sectionName, String.ofList name)
      else none
    | _ => none

/-- The name of the component that a reference points to, if it lies in the given section. -/
def componentName? (target : String) (self : Option String) (sectionName : String) :
    Option String :=
  match component? target self with
  | some (found, name) => if found = sectionName then some name else none
  | none => none

/-- The name that stands for a reference: that of its component, whatever the section, and the text
of the reference itself when it points to no component. -/
def displayName (target : String) (self : Option String) : String :=
  match component? target self with
  | some (_, name) => name
  | none => target

/-- The reference to the schema of a name. -/
def ofSchemaName (name : String) : String :=
  "#/components/schemas/" ++ String.ofList (encodeSegment name.toList)

end Reference
end ApiResolution
