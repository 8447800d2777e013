/-!
This module contains the byte view of texts. A text is a list of characters, an offset into it
counts the bytes of the UTF-8 form, and an offset that falls inside a character names no place of
the text.
-/

namespace Waymark
namespace Text

def size : List Char → Nat
  | [] => 0
  | c :: cs => c.utf8Size + size cs

def splitBytes : Nat → List Char → Option (List Char × List Char)
  | 0, cs => some ([], cs)
  | _ + 1, [] => none
  | n + 1, c :: cs =>
    if c.utf8Size ≤ n + 1 then
      (splitBytes (n + 1 - c.utf8Size) cs).map fun (front, back) => (c :: front, back)
    else
      none

def dropBytes : Nat → List Char → Option (List Char)
  | 0, cs => some cs
  | _ + 1, [] => none
  | n + 1, c :: cs =>
    if c.utf8Size ≤ n + 1 then dropBytes (n + 1 - c.utf8Size) cs else none

def slice (start len : Nat) (cs : List Char) : Option (List Char) := do
  let rest ← dropBytes start cs
  let (text, _) ← splitBytes len rest
  return text

@[simp]
theorem size_nil : size [] = 0 := rfl

@[simp]
theorem size_cons (c : Char) (cs : List Char) : size (c :: cs) = c.utf8Size + size cs := rfl

theorem utf8Size_newline : '\n'.utf8Size = 1 := by
  decide

@[simp]
theorem size_append (xs ys : List Char) : size (xs ++ ys) = size xs + size ys := by
  induction xs with
  | nil => simp
  | cons c cs ih => simp [ih, Nat.add_assoc]

theorem utf8ByteSize_ofList (cs : List Char) : (String.ofList cs).utf8ByteSize = size cs := by
  induction cs with
  | nil => simp
  | cons c cs ih =>
    rw [String.ofList_cons, String.utf8ByteSize_append, String.utf8ByteSize_singleton, ih,
      size_cons]

theorem utf8ByteSize_eq_size (text : String) : text.utf8ByteSize = size text.toList := by
  rw [← utf8ByteSize_ofList, String.ofList_toList]

theorem size_eq_zero_iff {cs : List Char} : size cs = 0 ↔ cs = [] := by
  cases cs with
  | nil => simp
  | cons c cs =>
    have := c.utf8Size_pos
    simp only [size_cons, reduceCtorEq, iff_false]
    omega

theorem splitBytes_zero (cs : List Char) : splitBytes 0 cs = some ([], cs) := by
  cases cs <;> rfl

theorem splitBytes_append (front back : List Char) :
    splitBytes (size front) (front ++ back) = some (front, back) := by
  induction front with
  | nil => simp [splitBytes_zero]
  | cons c cs ih =>
    have hpos := c.utf8Size_pos
    obtain ⟨n, hn⟩ : ∃ n, size (c :: cs) = n + 1 := ⟨size (c :: cs) - 1, by simp; omega⟩
    have hle : c.utf8Size ≤ n + 1 := by simp at hn; omega
    have hsub : n + 1 - c.utf8Size = size cs := by simp at hn; omega
    rw [hn, List.cons_append, splitBytes, if_pos hle, hsub, ih]
    rfl

theorem eq_append_of_splitBytes {n : Nat} {cs front back : List Char}
    (h : splitBytes n cs = some (front, back)) : cs = front ++ back ∧ size front = n := by
  fun_induction splitBytes n cs generalizing front back with
  | case1 cs =>
    simp only [Option.some.injEq, Prod.mk.injEq] at h
    obtain ⟨rfl, rfl⟩ := h
    simp
  | case2 => simp at h
  | case3 n c cs hle ih =>
    simp only [Option.map_eq_some_iff, Prod.mk.injEq] at h
    obtain ⟨⟨f, b⟩, hf, rfl, rfl⟩ := h
    obtain ⟨rfl, hsize⟩ := ih hf
    simp only [List.cons_append, size_cons, true_and]
    omega
  | case4 => simp at h

theorem splitBytes_eq_some_iff {n : Nat} {cs front back : List Char} :
    splitBytes n cs = some (front, back) ↔ cs = front ++ back ∧ size front = n := by
  constructor
  . exact eq_append_of_splitBytes
  . rintro ⟨rfl, rfl⟩
    exact splitBytes_append front back

theorem dropBytes_eq (n : Nat) (cs : List Char) :
    dropBytes n cs = (splitBytes n cs).map (·.2) := by
  fun_induction dropBytes n cs with
  | case1 cs => simp [splitBytes_zero]
  | case2 => simp [splitBytes]
  | case3 n c cs h ih => simp [splitBytes, h, ih, Option.map_map, Function.comp_def]
  | case4 n c cs h => simp [splitBytes, h]

theorem dropBytes_eq_some_iff {n : Nat} {cs back : List Char} :
    dropBytes n cs = some back ↔ ∃ front, cs = front ++ back ∧ size front = n := by
  simp [dropBytes_eq, splitBytes_eq_some_iff]

theorem slice_eq_some_iff {start len : Nat} {cs text : List Char} :
    slice start len cs = some text ↔
      ∃ front back, cs = front ++ text ++ back ∧ size front = start ∧ size text = len := by
  simp only [slice, Option.bind_eq_bind, Option.bind_eq_some_iff, dropBytes_eq_some_iff,
    Option.pure_def, Prod.exists, splitBytes_eq_some_iff]
  constructor
  . rintro ⟨rest, ⟨front, rfl, hfront⟩, text, back, ⟨rfl, htext⟩, h⟩
    obtain rfl := Option.some.inj h
    exact ⟨front, back, by simp, hfront, htext⟩
  . rintro ⟨front, back, rfl, hfront, htext⟩
    exact ⟨text ++ back, ⟨front, by simp, hfront⟩, text, back, ⟨rfl, htext⟩, rfl⟩

end Text
end Waymark
