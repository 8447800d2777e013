import Waymark.Value.Convert

/-!
This module contains the functions on results and on error messages that a drafted grammar can name.
-/

namespace Waymark

inductive Mapper where
  | toInt
  | foldOperations
  | upper
  | render
  | count
  | const (value : Value)
  | wrap (name : String)
  | field (name : String)
  | nth (n : Nat)
  deriving Inhabited

namespace Mapper

def apply : Mapper → Value → Value
  | .toInt, v => v.toInt
  | .foldOperations, v => v.foldOperations
  | .upper, v => v.upper
  | .render, v => .token v.render
  | .count, v => v.count
  | .const value, _ => value
  | .wrap name, v => .record [(name, v)]
  | .field name, v => (v.field? name).getD .null
  | .nth n, v => (v.items?.bind (·[n]?)).getD .null

end Mapper

inductive MessageMapper where
  | const (text : String)
  | prepend (text : String)
  | locate (label : String)
  deriving DecidableEq, Inhabited

namespace MessageMapper

def apply : MessageMapper → String → Nat → String
  | .const text, _, _ => text
  | .prepend text, message, _ => text ++ message
  | .locate label, message, index => s!"{label}|{index}|{message}"

end MessageMapper

end Waymark
