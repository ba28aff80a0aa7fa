/-!
Offsets into a text count the bytes of its characters in UTF-8. A text can be cut at an offset only
where a character starts or where the text ends (`cutAt?_eq_some_iff`).
-/

namespace ApiResolution
namespace Text

/-- The number of bytes of a text. -/
def byteLength : List Char → Nat
  | [] => 0
  | c :: cs => c.utf8Size + byteLength cs

/-- The parts of a text before and after an offset; none when the offset lies inside a character or
behind the end. -/
def cutAt? : List Char → Nat → Option (List Char × List Char)
  | cs, 0 => some ([], cs)
  | [], _ + 1 => none
  | c :: cs, n + 1 =>
    if c.utf8Size ≤ n + 1 then
      (cutAt? cs (n + 1 - c.utf8Size)).map fun (before, after) => (c :: before, after)
    else none

/-- The parts of a text before, between and after two offsets; none when one of them is no place to
cut, or when they are in the wrong order. -/
def partsAt? (cs : List Char) (start stop : Nat) :
    Option (List Char × List Char × List Char) := do
  let (front, after) ← cutAt? cs stop
  let (before, between) ← cutAt? front start
  return (before, between, after)

/-- The offset of the first occurrence of a character. -/
def offsetOf? (c : Char) : List Char → Option Nat
  | [] => none
  | d :: ds => if d = c then some 0 else (offsetOf? c ds).map (d.utf8Size + ·)

@[simp] theorem byteLength_nil : byteLength [] = 0 := rfl

@[simp] theorem byteLength_cons (c : Char) (cs : List Char) :
    byteLength (c :: cs) = c.utf8Size + byteLength cs := rfl

@[simp] theorem byteLength_append (before after : List Char) :
    byteLength (before ++ after) = byteLength before + byteLength after := by
  induction before with
  | nil => simp
  | cons c before ih => simp [ih, Nat.add_assoc]

theorem cutAt?_append (before after : List Char) :
    cutAt? (before ++ after) (byteLength before) = some (before, after) := by
  induction before with
  | nil => rw [List.nil_append, byteLength_nil, cutAt?]
  | cons c before ih =>
    have hpos := c.utf8Size_pos
    obtain ⟨n, hn⟩ : ∃ n, c.utf8Size + byteLength before = n + 1 :=
      Nat.exists_eq_add_one.mpr (by omega)
    have hfits : c.utf8Size ≤ n + 1 := by omega
    have hrest : n + 1 - c.utf8Size = byteLength before := by omega
    rw [List.cons_append, byteLength_cons, hn, cutAt?, if_pos hfits, hrest, ih, Option.map_some]

theorem of_cutAt?_eq_some {cs before after : List Char} {n : Nat}
    (h : cutAt? cs n = some (before, after)) : cs = before ++ after ∧ byteLength before = n := by
  fun_induction cutAt? cs n generalizing before with
  | case1 cs =>
    obtain ⟨rfl, rfl⟩ := Prod.mk.inj (Option.some.inj h)
    exact ⟨rfl, rfl⟩
  | case2 n => exact absurd h (by simp)
  | case3 c cs n hfits ih =>
    obtain ⟨⟨front, rest⟩, hcut, hparts⟩ := Option.map_eq_some_iff.mp h
    obtain ⟨rfl, rfl⟩ := Prod.mk.inj hparts
    obtain ⟨rfl, hlength⟩ := ih hcut
    refine ⟨rfl, ?_⟩
    rw [byteLength_cons, hlength]
    omega
  | case4 c cs n hfits => exact absurd h (by simp)

/-- A cut gives back the text, and the part before it has as many bytes as the offset says. -/
theorem cutAt?_eq_some_iff {cs before after : List Char} {n : Nat} :
    cutAt? cs n = some (before, after) ↔ cs = before ++ after ∧ byteLength before = n := by
  constructor
  · exact of_cutAt?_eq_some
  · rintro ⟨rfl, rfl⟩
    exact cutAt?_append before after

theorem partsAt?_eq_some_iff {cs before between after : List Char} {start stop : Nat} :
    partsAt? cs start stop = some (before, between, after) ↔
      cs = before ++ between ++ after ∧ byteLength before = start ∧
        byteLength before + byteLength between = stop := by
  unfold partsAt?
  constructor
  · intro h
    obtain ⟨⟨front, rest⟩, hstop, h⟩ := Option.bind_eq_some_iff.mp h
    obtain ⟨⟨left, right⟩, hstart, h⟩ := Option.bind_eq_some_iff.mp h
    obtain ⟨rfl, hparts⟩ := Prod.mk.inj (Option.some.inj h)
    obtain ⟨rfl, rfl⟩ := Prod.mk.inj hparts
    obtain ⟨rfl, hfront⟩ := cutAt?_eq_some_iff.mp hstop
    obtain ⟨rfl, hleft⟩ := cutAt?_eq_some_iff.mp hstart
    rw [byteLength_append] at hfront
    exact ⟨rfl, hleft, hfront⟩
  · rintro ⟨rfl, rfl, rfl⟩
    rw [← byteLength_append, cutAt?_append]
    show (cutAt? (before ++ between) (byteLength before)).bind _ = _
    rw [cutAt?_append]
    rfl

theorem offsetOf?_eq_none {c : Char} {cs : List Char} (h : c ∉ cs) : offsetOf? c cs = none := by
  induction cs with
  | nil => rfl
  | cons d cs ih =>
    have hne : d ≠ c := fun heq => h (heq ▸ List.mem_cons_self)
    rw [offsetOf?, if_neg hne, ih fun hmem => h (List.mem_cons_of_mem _ hmem), Option.map_none]

theorem offsetOf?_append_cons {c : Char} {before : List Char} (h : c ∉ before)
    (after : List Char) : offsetOf? c (before ++ c :: after) = some (byteLength before) := by
  induction before with
  | nil => rw [List.nil_append, offsetOf?, if_pos rfl, byteLength_nil]
  | cons d before ih =>
    have hne : d ≠ c := fun heq => h (heq ▸ List.mem_cons_self)
    rw [List.cons_append, offsetOf?, if_neg hne, ih fun hmem => h (List.mem_cons_of_mem _ hmem),
      Option.map_some, byteLength_cons]

end Text
end ApiResolution
