import Mathlib.Data.List.Lex
import Mathlib.Data.String.Basic
import Waymark.Text.Bytes

/-!
This module contains the UTF-8 form of texts as lists of bytes. The byte of a line feed is part of
no other character, and texts are in the same order by their characters as by their bytes.
-/

namespace Waymark
namespace Text

def encode (cs : List Char) : List UInt8 :=
  cs.flatMap String.utf8EncodeChar

def bytes (text : String) : List UInt8 :=
  text.toByteArray.data.toList

@[simp]
theorem encode_nil : encode [] = [] := rfl

@[simp]
theorem encode_cons (c : Char) (cs : List Char) :
    encode (c :: cs) = String.utf8EncodeChar c ++ encode cs := rfl

@[simp]
theorem encode_append (xs ys : List Char) : encode (xs ++ ys) = encode xs ++ encode ys := by
  simp [encode]

@[simp]
theorem length_encode (cs : List Char) : (encode cs).length = size cs := by
  induction cs with
  | nil => rfl
  | cons c cs ih => simp [ih]

@[simp]
theorem bytes_ofList (cs : List Char) : bytes (String.ofList cs) = encode cs := by
  rw [bytes, String.toByteArray_ofList, List.utf8Encode, List.toList_data_toByteArray, encode]

theorem bytes_eq_encode (text : String) : bytes text = encode text.toList := by
  rw [← bytes_ofList, String.ofList_toList]

theorem length_bytes (text : String) : (bytes text).length = text.utf8ByteSize := by
  rw [bytes_eq_encode, length_encode, utf8ByteSize_eq_size]

@[simp]
theorem bytes_append (front back : String) : bytes (front ++ back) = bytes front ++ bytes back := by
  simp [bytes_eq_encode]

theorem newline_mem_utf8EncodeChar_iff {c : Char} :
    '\n'.toUInt8 ∈ String.utf8EncodeChar c ↔ c = '\n' := by
  constructor
  . intro h
    unfold String.utf8EncodeChar at h
    dsimp only at h
    have hbyte : '\n'.toUInt8.toNat = 10 := by decide
    have hchar : '\n'.val.toNat = 10 := by decide
    apply Char.ext
    rw [← UInt32.toNat_inj, hchar]
    split_ifs at h
    all_goals
      simp only [List.mem_cons, List.not_mem_nil, or_false, ← UInt8.toNat_inj, UInt8.toNat_ofNat',
        hbyte] at h
      omega
  . rintro rfl
    decide

theorem count_newline_take_eq_zero {c : Char} (h : c ≠ '\n') (n : Nat) :
    ((String.utf8EncodeChar c).take n).count '\n'.toUInt8 = 0 := by
  apply List.count_eq_zero_of_not_mem
  intro hmem
  exact h (newline_mem_utf8EncodeChar_iff.mp (List.mem_of_mem_take hmem))

theorem count_newline_take_of_lt {c : Char} {n : Nat} (h : n < c.utf8Size) :
    ((String.utf8EncodeChar c).take n).count '\n'.toUInt8 = 0 := by
  by_cases hc : c = '\n'
  . rw [hc, utf8Size_newline] at h
    obtain rfl : n = 0 := by omega
    rfl
  . exact count_newline_take_eq_zero hc n

theorem count_newline_utf8EncodeChar (c : Char) :
    (String.utf8EncodeChar c).count '\n'.toUInt8 = if c = '\n' then 1 else 0 := by
  split
  . next hc =>
    rw [hc]
    decide
  . next hc =>
    have hzero := count_newline_take_eq_zero hc c.utf8Size
    rwa [← String.length_utf8EncodeChar, List.take_length] at hzero

theorem newline_mem_encode_iff {cs : List Char} : '\n'.toUInt8 ∈ encode cs ↔ '\n' ∈ cs := by
  simp [encode, newline_mem_utf8EncodeChar_iff]

theorem div_lt_or_mod_lt {m n : Nat} (h : m < n) :
    m / 64 < n / 64 ∨ m / 64 = n / 64 ∧ m % 64 < n % 64 := by
  omega

theorem digits_lt {m n : Nat} (h : m < n) :
    m / 262144 < n / 262144 ∨ m / 262144 = n / 262144 ∧
      (m / 4096 % 64 < n / 4096 % 64 ∨ m / 4096 % 64 = n / 4096 % 64 ∧
        (m / 64 % 64 < n / 64 % 64 ∨ m / 64 % 64 = n / 64 % 64 ∧ m % 64 < n % 64)) := by
  have hdiv (n : Nat) : n / 4096 = n / 64 / 64 ∧ n / 262144 = n / 64 / 64 / 64 := by
    omega
  rw [(hdiv m).1, (hdiv m).2, (hdiv n).1, (hdiv n).2]
  rcases div_lt_or_mod_lt h with h | h
  . rcases div_lt_or_mod_lt h with h | h
    . rcases div_lt_or_mod_lt h with h | h
      all_goals omega
    . omega
  . omega

theorem utf8EncodeChar_append_lt {c d : Char} (h : c < d) (xs ys : List UInt8) :
    String.utf8EncodeChar c ++ xs < String.utf8EncodeChar d ++ ys := by
  have hlt : c.val.toNat < d.val.toNat := h
  have hdigits := digits_lt hlt
  have hvalid := d.valid
  simp only [UInt32.isValidChar, Nat.isValidChar] at hvalid
  unfold String.utf8EncodeChar
  dsimp only
  -- The number of bytes does not decrease from `c` to `d`. If it grows then the first byte does.
  split_ifs
  all_goals
    simp only [List.cons_append, List.cons_lt_cons_iff, UInt8.lt_iff_toNat_lt, ← UInt8.toNat_inj,
      UInt8.toNat_ofNat', Nat.reducePow]
    simp (disch := omega) only [Nat.mod_eq_of_lt]
    omega

theorem encode_lt_encode {cs ds : List Char} (h : cs < ds) : encode cs < encode ds := by
  induction h with
  | @nil d ds =>
    rw [encode_nil, encode_cons]
    have hne : String.utf8EncodeChar d ++ encode ds ≠ [] := by simp
    exact (List.lex_nil_or_eq_nil _).resolve_right hne
  | rel h => exact utf8EncodeChar_append_lt h _ _
  | cons _ ih => exact List.Lex.append_left _ ih _

theorem bytes_lt_bytes_iff {a b : String} : bytes a < bytes b ↔ a < b := by
  have hmono {a b : String} (h : a < b) : bytes a < bytes b := by
    rw [bytes_eq_encode, bytes_eq_encode]
    exact encode_lt_encode (String.lt_iff_toList_lt.mp h)
  constructor
  . intro h
    rcases lt_trichotomy a b with hlt | rfl | hgt
    . exact hlt
    . exact absurd h (List.lt_irrefl _)
    . exact absurd (hmono hgt) (List.lt_asymm h)
  . exact hmono

end Text
end Waymark
