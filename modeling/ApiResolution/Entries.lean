/-!
Insertion-ordered associations of names with values: a list of entries in which a name keeps the
place of its first insertion. `insert` replaces a value in place or appends; `lookup?` finds the
value of a name.
-/

namespace ApiResolution

/-- Named values in the order in which their names were first inserted. -/
abbrev Entries (α : Type) := List (String × α)

namespace Entries

variable {α β : Type}

/-- The value stored under `key`. -/
def lookup? (key : String) : Entries α → Option α
  | [] => none
  | (k, v) :: rest => if k = key then some v else lookup? key rest

/-- Whether some entry is named `key`. -/
def contains (key : String) (es : Entries α) : Bool :=
  (lookup? key es).isSome

/-- Stores `value` under `key`: in place when the name is known, at the end otherwise. -/
def insert (key : String) (value : α) : Entries α → Entries α
  | [] => [(key, value)]
  | (k, v) :: rest =>
    if k = key then (k, value) :: rest else (k, v) :: insert key value rest

/-- Removes every entry named `key`; the others keep their order. -/
def erase (key : String) (es : Entries α) : Entries α :=
  es.filter fun e => e.1 != key

/-- The names in order. -/
def keys (es : Entries α) : List String :=
  es.map Prod.fst

/-- The values in order. -/
def values (es : Entries α) : List α :=
  es.map Prod.snd

/-- Applies `f` to every value; names and order stay. -/
def mapValues (f : α → β) (es : Entries α) : Entries β :=
  es.map fun e => (e.1, f e.2)

/-- Applies `f` to the value stored under `key`, if there is one. -/
def modify (key : String) (f : α → α) : Entries α → Entries α
  | [] => []
  | (k, v) :: rest => if k = key then (k, f v) :: rest else (k, v) :: modify key f rest

/-- Inserts a sequence of entries one after the other, so a repeated name keeps its first place
and its last value. -/
def ofList (es : List (String × α)) : Entries α :=
  es.foldl (fun acc e => insert e.1 e.2 acc) []

@[simp] theorem lookup?_nil (key : String) : lookup? key ([] : Entries α) = none := rfl

theorem lookup?_cons (key k : String) (v : α) (es : Entries α) :
    lookup? key ((k, v) :: es) = if k = key then some v else lookup? key es := rfl

@[simp] theorem lookup?_insert_self (key : String) (v : α) (es : Entries α) :
    lookup? key (insert key v es) = some v := by
  induction es with
  | nil => simp [insert, lookup?]
  | cons e es ih => by_cases h : e.1 = key <;> simp [insert, lookup?, h, ih]

theorem lookup?_insert_of_ne {key other : String} (h : other ≠ key) (v : α) (es : Entries α) :
    lookup? other (insert key v es) = lookup? other es := by
  induction es with
  | nil => simp [insert, lookup?, Ne.symm h]
  | cons e es ih =>
    rcases e with ⟨k, w⟩
    by_cases hk : k = key
    · have hne : key ≠ other := Ne.symm h
      simp [insert, lookup?, hk, hne]
    · simp only [insert, hk, if_false, lookup?, ih]

/-- A known name keeps its place and a new one goes to the end. -/
theorem keys_insert (key : String) (v : α) (es : Entries α) :
    keys (insert key v es) = if key ∈ keys es then keys es else keys es ++ [key] := by
  induction es with
  | nil => simp [insert, keys]
  | cons e es ih =>
    by_cases h : e.1 = key
    · simp [insert, keys, h]
    · have hne : key ≠ e.1 := fun hk => h hk.symm
      simp only [insert, h, if_false, keys, List.map_cons, List.mem_cons, hne, false_or] at ih ⊢
      rw [ih]
      split <;> simp_all

@[simp] theorem keys_mapValues (f : α → β) (es : Entries α) :
    keys (mapValues f es) = keys es := by
  simp [keys, mapValues]

@[simp] theorem keys_modify (key : String) (f : α → α) (es : Entries α) :
    keys (modify key f es) = keys es := by
  induction es with
  | nil => rfl
  | cons e es ih => by_cases h : e.1 = key <;> simp_all [modify, keys]

end Entries
end ApiResolution
