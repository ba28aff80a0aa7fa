import ApiResolution.Parameter.OfDeclaration

/-!
The responses of an operation, and which of them it returns: the one with the least code that starts
with `2`, else the one that stands for all other codes.
-/

namespace ApiResolution
namespace Response

/-- The code of the response that stands for all other codes. -/
def defaultCode : String := "default"

/-- Whether a code starts with `2`. -/
def isSuccess (code : String) : Bool := code.toList.head? == some '2'

/-- The lesser of a code and the least code so far. -/
def lesser (best : Option String) (code : String) : Option String :=
  match best with
  | some b => if code < b then some code else some b
  | none => some code

/-- The code of the response that an operation returns. -/
def selected? (codes : List String) : Option String :=
  ((codes.filter isSuccess).foldl lesser none).or
    (if codes.contains defaultCode then some defaultCode else none)

/-- The first media type with a schema. -/
def payload? (d : ResponseObject) : Option (String × Schema) :=
  d.content.findSome? fun e => e.2.schema.map (e.1, ·)

/-- The name that a payload refers to, at the end of items and values. -/
def referencedModel? (c : Context) : Schema → Option String
  | ⟨_, .array (some items)⟩ => referencedModel? c items
  | ⟨_, .map (some value) _ _⟩ => referencedModel? c value
  | s => c.refName? s

/-- The property of a header. Without a schema it is an object, which is noted. -/
def ofHeader (c : Context) (name : String) (d : HeaderObject) : Noted Property := do
  let s ← match d.schema with
    | some s => pure s
    | none => do
      Noted.diagnose .missingSchema name ("Header '" ++ name ++ "' has no schema; using object")
      pure Schema.emptyObject
  let p ← Property.ofSchema c name s
  return { p with description := d.description.or p.description, required := d.required }

/-- The properties of headers; a reference to nothing is left out. -/
def ofHeaders (c : Context) (headers : Entries (OrReference HeaderObject)) : Noted (List Property) :=
  Noted.filterMapList (fun (name, part) => do
    match ← c.header? part with
    | some d => do
      let p ← ofHeader c name d
      return some p
    | none => return none) headers

/-- What a response declares apart from its payload. -/
def declared (code : String) (d : ResponseObject) (headers : List Property) : Response where
  code := if code = defaultCode then "0" else code
  message := d.description.getD ""
  headers
  extensions := extensionEntries d.others

/-- The type that a payload holds in the end. -/
def heldType (p : Property) : String :=
  if p.isContainer then p.innermost.baseType else p.complexType.getD p.baseType

/-- Gives a response the type of its payload. -/
def withPayload (v : Conventions) (contentType : String) (p : Property) (r : Response) : Response :=
  let baseType := heldType p
  { r with
    primitiveType := v.isPrimitive baseType
    isModel := !p.isContainer && p.complexType.isSome
    baseType := some baseType
    dataType := some p.datatype
    container := p.container
    simpleType := !p.isContainer
    isBinary := p.flags.isBinary
    isFile := p.flags.isFile
    contentType := some contentType
    schema := some p }

/-- The response under a code. -/
def ofDeclaration (c : Context) (code : String) (d : ResponseObject) : Noted (Using Response) := do
  let headers ← ofHeaders c d.headers
  let r := declared code d headers
  match payload? d with
  | none => return ⟨{ r with simpleType := true, primitiveType := true }, []⟩
  | some (contentType, s) => do
    let built ← Property.ofSchema c "response" s
    let p := Property.nameIfEnum c.conventions built
    return ⟨withPayload c.conventions contentType p r, p.imports c.conventions⟩

/-- Marks every response of a list but the last one as followed by another. -/
def markHasMore : List Response → List Response
  | [] => []
  | [r] => [{ r with hasMore := false }]
  | r :: q :: rs => { r with hasMore := true } :: markHasMore (q :: rs)

end Response
end ApiResolution
