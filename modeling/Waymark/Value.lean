import Waymark.Ascending

/-!
This module contains the values that parsers produce, with equality and access to their parts.
-/

namespace Waymark

inductive Value where
  | null
  | token (text : String)
  | int (n : Int64)
  | seq (items : List Value)
  | record (fields : List (String × Value))
  deriving Inhabited

namespace Value

mutual

def decEq : (v w : Value) → Decidable (v = w)
  | .null, .null => isTrue rfl
  | .token s, .token t => decidable_of_iff (s = t) (by simp)
  | .int m, .int n => decidable_of_iff (m = n) (by simp)
  | .seq vs, .seq ws =>
    match decEqItems vs ws with
    | isTrue h => isTrue (by rw [h])
    | isFalse h => isFalse (by simpa using h)
  | .record fs, .record gs =>
    match decEqFields fs gs with
    | isTrue h => isTrue (by rw [h])
    | isFalse h => isFalse (by simpa using h)
  | .null, .token _ | .null, .int _ | .null, .seq _ | .null, .record _
  | .token _, .null | .token _, .int _ | .token _, .seq _ | .token _, .record _
  | .int _, .null | .int _, .token _ | .int _, .seq _ | .int _, .record _
  | .seq _, .null | .seq _, .token _ | .seq _, .int _ | .seq _, .record _
  | .record _, .null | .record _, .token _ | .record _, .int _ | .record _, .seq _ =>
    isFalse (by simp)

def decEqItems : (vs ws : List Value) → Decidable (vs = ws)
  | [], [] => isTrue rfl
  | [], _ :: _ | _ :: _, [] => isFalse (by simp)
  | v :: vs, w :: ws =>
    match decEq v w, decEqItems vs ws with
    | isTrue h, isTrue hs => isTrue (by rw [h, hs])
    | isFalse h, _ => isFalse (by simp [h])
    | _, isFalse hs => isFalse (by simp [hs])

def decEqFields : (fs gs : List (String × Value)) → Decidable (fs = gs)
  | [], [] => isTrue rfl
  | [], _ :: _ | _ :: _, [] => isFalse (by simp)
  | (k, v) :: fs, (l, w) :: gs =>
    if hk : k = l then
      match decEq v w, decEqFields fs gs with
      | isTrue h, isTrue hs => isTrue (by rw [hk, h, hs])
      | isFalse h, _ => isFalse (by simp [h])
      | _, isFalse hs => isFalse (by simp [hs])
    else
      isFalse (by simp [hk])

end

instance : DecidableEq Value := decEq

def ofFields (fields : List (String × Value)) : Value :=
  .record (Ascending.ofList fields)

def isNull : Value → Bool
  | .null => true
  | _ => false

def asText? : Value → Option String
  | .token text => some text
  | _ => none

def asInt? : Value → Option Int64
  | .int n => some n
  | _ => none

def items? : Value → Option (List Value)
  | .seq items => some items
  | _ => none

def field? (v : Value) (name : String) : Option Value :=
  match v with
  | .record fields => fields.lookup name
  | _ => none

end Value

end Waymark
