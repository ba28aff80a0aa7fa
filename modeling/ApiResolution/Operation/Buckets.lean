import ApiResolution.Operation.OfDeclaration

/-!
The operations of a document, grouped by tag. An operation lies in the bucket of each of its tags,
and in a common one when it has none. An operation whose name is taken in a bucket gets another one
there, and the operations before it keep theirs.
-/

namespace ApiResolution

/-- Operations grouped by tag. -/
abbrev Buckets := Entries (List Operation)

/-- An operation with what surrounds it in a document. -/
structure DeclaredOperation where
  path : String
  method : HttpMethod
  pathParameters : List (OrReference ParameterObject)
  declared : OperationObject

/-- The operation of a method. -/
def PathItem.operation? (p : PathItem) : HttpMethod → Option OperationObject
  | .get => p.get
  | .put => p.put
  | .post => p.post
  | .delete => p.delete
  | .options => p.options
  | .head => p.head
  | .patch => p.patch
  | .trace => p.trace

/-- The operations of a document in order. -/
def Document.operations (d : Document) : List DeclaredOperation :=
  d.paths.flatMap fun (path, item) => HttpMethod.all.filterMap fun method =>
    (item.operation? method).map fun declared => ⟨path, method, item.parameters, declared⟩

namespace Buckets

/-- The bucket of operations without tags. -/
def commonName : String := "default"

/-- The buckets in which an operation lies. -/
def namesOf (v : Conventions) (o : Operation) : List String :=
  if o.tags.isEmpty then [commonName] else o.tags.map v.tagName

/-- The first name with a number, from `k` on, that is not taken, among `rest` of them. -/
def numberedFrom (taken : List String) (name : String) : Nat → Nat → String
  | 0, k => name ++ "_" ++ toString k
  | rest + 1, k =>
    let candidate := name ++ "_" ++ toString k
    if taken.contains candidate then numberedFrom taken name rest (k + 1) else candidate

/-- The name of an operation among taken names: its own one, or its own one with the least number
that makes it free. -/
def freeName (taken : List String) (name : String) : String :=
  if taken.contains name then numberedFrom taken name taken.length 1 else name

/-- Adds an operation to a bucket. A new name is noted. -/
def add (buckets : Buckets) (bucket : String) (o : Operation) : Noted Buckets := do
  let before := (Entries.lookup? bucket buckets).getD []
  let name := freeName (before.map (·.operationId)) o.operationId
  if name != o.operationId then
    Noted.diagnose .duplicateOperationId (o.method.word ++ " " ++ o.path)
      ("Operation id '" ++ o.operationId ++ "' already used in this tag; renamed to '" ++ name ++
        "'")
  return Entries.insert bucket (before ++ [{ o with operationId := name }]) buckets

/-- Adds an operation to several buckets, one after the other. -/
def addToAll (o : Operation) : List String → Buckets → Noted Buckets
  | [], buckets => pure buckets
  | name :: names, buckets => do
    let next ← add buckets name o
    addToAll o names next

/-- Adds operations in order, up to the first one that fails. -/
def addDeclared (c : Context) (models : ModelMap) : List DeclaredOperation → Buckets →
    Noted (Except Failure Buckets)
  | [], buckets => pure (.ok buckets)
  | d :: ds, buckets => do
    match ← Operation.ofDeclaration c models d.path d.method d.pathParameters d.declared with
    | .error failure => return .error failure
    | .ok o => do
      let next ← addToAll o (namesOf c.conventions o) buckets
      addDeclared c models ds next

/-- The operations of a document. -/
def ofDocument (c : Context) (models : ModelMap) : Noted (Except Failure Buckets) :=
  addDeclared c models c.document.operations []

end Buckets
end ApiResolution
