import Waymark.Value.Render

/-!
This module contains conversions between values that grammars apply to the results of parsers.
-/

namespace Waymark

def readDecimal? (digits : List Char) : Option Nat :=
  if !digits.isEmpty && digits.all Char.isDigit then
    some (digits.foldl (fun n c => 10 * n + (c.toNat - '0'.toNat)) 0)
  else
    none

def readInt64? (text : List Char) : Option Int64 :=
  match text with
  | '-' :: digits => do
    let n ← readDecimal? digits
    if n ≤ 0x8000000000000000 then some (Int64.ofInt (-n)) else none
  | '+' :: digits => positive digits
  | digits => positive digits
where
  positive (digits : List Char) : Option Int64 := do
    let n ← readDecimal? digits
    if n < 0x8000000000000000 then some (Int64.ofInt n) else none

def readUnsigned64? (text : List Char) : Option Nat := do
  let n ← readDecimal? (match text with
    | '+' :: digits => digits
    | digits => digits)
  if n < UInt64.size then some n else none

namespace Value

def toInt (v : Value) : Value :=
  match v.asText?.bind fun text => readInt64? text.toList with
  | some n => .int n
  | none => .null

def applyOperation (acc : Int64) (operation : Value) : Int64 :=
  let parts := operation.items?.getD []
  let n := (parts[1]?.bind asInt?).getD 0
  match parts.head?.bind asText? with
  | some "+" => acc + n
  | some "-" => acc - n
  | some "*" => acc * n
  | _ => acc

def foldOperations (v : Value) : Value :=
  let parts := v.items?.getD []
  let first := (parts.head?.bind asInt?).getD 0
  let operations := (parts[1]?.bind items?).getD []
  .int (operations.foldl applyOperation first)

def upper (v : Value) : Value :=
  .token (String.ofList (v.render.toList.map Char.toUpper))

def count (v : Value) : Value :=
  match v.items? with
  | some items => .int (Int64.ofNat items.length)
  | none => .null

end Value

end Waymark
