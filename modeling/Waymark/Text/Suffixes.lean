import Waymark.Text.Bytes

/-!
This module contains tables of what follows each offset of a text, and shows that looking an offset
up is the same as dropping the bytes before it.
-/

namespace Waymark
namespace Text

def pad (table : Array (Option (List Char))) : Nat → Array (Option (List Char))
  | 0 => table
  | n + 1 => pad (table.push none) n

def suffixes (table : Array (Option (List Char))) : List Char → Array (Option (List Char))
  | [] => table.push (some [])
  | c :: cs => suffixes (pad (table.push (some (c :: cs))) (c.utf8Size - 1)) cs

@[simp]
theorem size_pad (table : Array (Option (List Char))) (n : Nat) :
    (pad table n).size = table.size + n := by
  induction n generalizing table with
  | zero => rfl
  | succ n ih =>
    rw [pad, ih, Array.size_push]
    omega

theorem getElem?_pad (table : Array (Option (List Char))) (n i : Nat) :
    (pad table n)[i]? = if i < table.size + n then (table[i]?).or (some none) else none := by
  induction n generalizing table with
  | zero =>
    split
    . next h => simp [pad, Array.getElem?_eq_getElem h]
    . next h => simpa [pad] using h
  | succ n ih =>
    rw [pad, ih, Array.size_push, Array.getElem?_push]
    grind

theorem getElem?_suffixes_of_lt {table : Array (Option (List Char))} {cs : List Char} {i : Nat}
    (h : i < table.size) : (suffixes table cs)[i]? = table[i]? := by
  induction cs generalizing table with
  | nil => rw [suffixes, Array.getElem?_push, if_neg (Nat.ne_of_lt h)]
  | cons c cs ih =>
    rw [suffixes, ih (by simp; omega), getElem?_pad, Array.getElem?_push]
    grind

theorem join_getElem?_suffixes (table : Array (Option (List Char))) (cs : List Char) (n : Nat) :
    ((suffixes table cs)[table.size + n]?).join = dropBytes n cs := by
  induction cs generalizing table n with
  | nil => cases n <;> simp [suffixes, dropBytes]
  | cons c cs ih =>
    have hpos := c.utf8Size_pos
    have hsize : (pad (table.push (some (c :: cs))) (c.utf8Size - 1)).size
        = table.size + c.utf8Size := by
      simp
      omega
    rw [suffixes]
    cases n with
    | zero =>
      rw [getElem?_suffixes_of_lt (by omega), getElem?_pad, dropBytes, if_pos (by simp; omega)]
      simp
    | succ n =>
      rw [dropBytes]
      split
      . next h =>
        have hindex : table.size + (n + 1)
            = table.size + c.utf8Size + (n + 1 - c.utf8Size) := by
          omega
        rw [← ih, hsize, ← hindex]
      . next h =>
        rw [getElem?_suffixes_of_lt (by omega), getElem?_pad, Array.getElem?_push]
        grind

end Text
end Waymark
