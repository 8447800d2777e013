import Waymark.Text.Quoted
import Waymark.Value

/-!
This module contains the two written forms of values: the plain form, which shows texts as they are,
and the detailed form, which names the kind of every part and quotes texts.
-/

namespace Waymark
namespace Value

mutual

def render : Value → String
  | .null => "null"
  | .token text => text
  | .int n => toString n.toInt
  | .seq items => "[" ++ ", ".intercalate (renderItems items) ++ "]"
  | .record fields => "\x7b" ++ ", ".intercalate (renderFields fields) ++ "\x7d"

def renderItems : List Value → List String
  | [] => []
  | v :: vs => render v :: renderItems vs

def renderFields : List (String × Value) → List String
  | [] => []
  | (name, v) :: fields => (name ++ ": " ++ render v) :: renderFields fields

end

mutual

def detail : Value → String
  | .null => "Null"
  | .token text => "Token(" ++ Text.quote text ++ ")"
  | .int n => "Int(" ++ toString n.toInt ++ ")"
  | .seq items => "Seq([" ++ ", ".intercalate (detailItems items) ++ "])"
  | .record fields => "Record(\x7b" ++ ", ".intercalate (detailFields fields) ++ "\x7d)"

def detailItems : List Value → List String
  | [] => []
  | v :: vs => detail v :: detailItems vs

def detailFields : List (String × Value) → List String
  | [] => []
  | (name, v) :: fields => (Text.quote name ++ ": " ++ detail v) :: detailFields fields

end

end Value
end Waymark
