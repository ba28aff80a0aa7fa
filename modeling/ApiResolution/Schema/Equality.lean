import ApiResolution.Schema

/-!
Equality of schemas as values: the order of properties, extensions and mapping entries does not
count, and numbers and JSON values are compared as values.
-/

namespace ApiResolution

/-- Whether two optional values are both absent or both present and related. -/
def sameOption {α : Type} (same : α → α → Bool) : Option α → Option α → Bool
  | none, none => true
  | some x, some y => same x y
  | _, _ => false

/-- Whether two associations have as many entries and related values under equal names. -/
def sameEntries {α : Type} (same : α → α → Bool) (es fs : Entries α) : Bool :=
  es.length == fs.length && es.all fun (k, v) =>
    match Entries.lookup? k fs with
    | some w => same v w
    | none => false

/-- Equality of discriminators. -/
def Discriminator.same (d e : Discriminator) : Bool :=
  d.propertyName == e.propertyName && sameEntries (· == ·) d.mapping e.mapping

/-- Equality of annotations. -/
def Annotations.same (a b : Annotations) : Bool :=
  a.title == b.title && a.description == b.description && a.format == b.format &&
  Json.sameItems a.enumValues b.enumValues &&
  sameOption Json.same a.defaultValue b.defaultValue &&
  sameOption Json.same a.exampleValue b.exampleValue &&
  a.nullable == b.nullable && a.readOnly == b.readOnly && a.writeOnly == b.writeOnly &&
  sameOption Number.same a.minimum b.minimum && sameOption Number.same a.maximum b.maximum &&
  a.exclusiveMinimum == b.exclusiveMinimum && a.exclusiveMaximum == b.exclusiveMaximum &&
  sameOption Number.same a.multipleOf b.multipleOf &&
  a.minLength == b.minLength && a.maxLength == b.maxLength && a.pattern == b.pattern &&
  a.minItems == b.minItems && a.maxItems == b.maxItems && a.uniqueItems == b.uniqueItems &&
  sameOption Discriminator.same a.discriminator b.discriminator &&
  sameEntries Json.same a.extensions b.extensions

namespace Schema

mutual

/-- Equality of schemas. -/
def same : Schema → Schema → Bool
  | ⟨a, shape⟩, t => a.same t.toAnnotations && sameShape shape t.shape

/-- Equality of shapes. -/
def sameShape : Shape Schema → Shape Schema → Bool
  | .scalar s, other =>
    match other with
    | .scalar t => s == t
    | _ => false
  | .array s, other =>
    match other with
    | .array t => samePart s t
    | _ => false
  | .map v ps rs, other =>
    match other with
    | .map w qs ss => samePart v w && ps.length == qs.length && sameProperties ps qs && rs == ss
    | _ => false
  | .object ps rs, other =>
    match other with
    | .object qs ss => ps.length == qs.length && sameProperties ps qs && rs == ss
    | _ => false
  | .composed a o n ps rs, other =>
    match other with
    | .composed b p m qs ss =>
      sameList a b && sameList o p && sameList n m && ps.length == qs.length &&
        sameProperties ps qs && rs == ss
    | _ => false
  | .reference s, other =>
    match other with
    | .reference t => s == t
    | _ => false
  | .any, other =>
    match other with
    | .any => true
    | _ => false

/-- Equality of optional parts of shapes. -/
def samePart : Option Schema → Option Schema → Bool
  | none, other => other.isNone
  | some s, other =>
    match other with
    | some t => same s t
    | none => false

/-- Equality of lists of schemas. -/
def sameList : List Schema → List Schema → Bool
  | [], [] => true
  | s :: ss, t :: ts => same s t && sameList ss ts
  | _, _ => false

/-- Whether each property of the first object is found in the second with an equal schema. -/
def sameProperties : List (String × Schema) → List (String × Schema) → Bool
  | [], _ => true
  | (k, s) :: ps, qs =>
    (match Entries.lookup? k qs with
      | some t => same s t
      | none => false) && sameProperties ps qs

end

end Schema
end ApiResolution
