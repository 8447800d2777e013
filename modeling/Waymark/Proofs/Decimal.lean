import Mathlib.Data.Nat.Digits.Defs
import Waymark.Value.Convert

/-!
This module contains the numbers that strings of decimal digits write by place value, and the proof
that the conversion of tokens finds them wherever they are in the range of 64 bit integers.
-/

namespace Waymark

def decimalValue (digits : List Char) : Nat :=
  Nat.ofDigits 10 (digits.reverse.map fun d => d.toNat - '0'.toNat)

def decimalInt? (digits : List Char) : Option Int64 :=
  if decimalValue digits < 0x8000000000000000 then
    some (Int64.ofInt (decimalValue digits))
  else
    none

section

variable {digits : List Char}

theorem foldl_digits (digits : List Char) :
    digits.foldl (fun n c => 10 * n + (c.toNat - '0'.toNat)) 0 = decimalValue digits := by
  unfold decimalValue
  rw [Nat.ofDigits_eq_foldr, List.foldr_map, List.foldr_reverse]
  congr 1
  funext n c
  apply Nat.add_comm

theorem readDecimal?_eq (hne : digits ≠ []) (hdigits : ∀ c ∈ digits, c.isDigit = true) :
    readDecimal? digits = some (decimalValue digits) := by
  unfold readDecimal?
  rw [if_pos, foldl_digits]
  rw [Bool.and_eq_true, List.all_eq_true]
  refine ⟨?_, hdigits⟩
  rw [Bool.not_eq_true', List.isEmpty_eq_false_iff]
  exact hne

theorem readInt64?_eq (hne : digits ≠ []) (hdigits : ∀ c ∈ digits, c.isDigit = true) :
    readInt64? digits = decimalInt? digits := by
  have hpositive : readInt64? digits = readInt64?.positive digits := by
    unfold readInt64?
    split
    . next rest => exact absurd (hdigits '-' List.mem_cons_self) (by decide)
    . next rest => exact absurd (hdigits '+' List.mem_cons_self) (by decide)
    . rfl
  rw [hpositive, readInt64?.positive, readDecimal?_eq hne hdigits]
  rfl

theorem toInt_token (hne : digits ≠ []) (hdigits : ∀ c ∈ digits, c.isDigit = true) :
    Value.toInt (.token (String.ofList digits)) = (decimalInt? digits).elim .null .int := by
  have htext : (Value.token (String.ofList digits)).asText? = some (String.ofList digits) := rfl
  rw [Value.toInt, htext, Option.bind_some, String.toList_ofList, readInt64?_eq hne hdigits]
  cases decimalInt? digits with
  | none => rfl
  | some n => rfl

end

end Waymark
