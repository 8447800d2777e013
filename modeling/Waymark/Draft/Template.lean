import Waymark.Parser.DoBlock

/-!
This module contains templates, which say how the value of a block is made from what the block has
bound.
-/

namespace Waymark

inductive Template where
  | var (name : String)
  | value (v : Value)
  | count
  | all
  | seq (items : List Template)
  | record (fields : List (String × Template))
  deriving Inhabited

namespace Template

mutual

def fill (bindings : Bindings) : Template → Value
  | .var name => bindings.value name
  | .value v => v
  | .count => .int (Int64.ofNat bindings.length)
  | .all => .record bindings
  | .seq items => .seq (fillItems bindings items)
  | .record fields => .ofFields (fillFields bindings fields)

def fillItems (bindings : Bindings) : List Template → List Value
  | [] => []
  | item :: items => fill bindings item :: fillItems bindings items

def fillFields (bindings : Bindings) : List (String × Template) → List (String × Value)
  | [] => []
  | (name, field) :: fields => (name, fill bindings field) :: fillFields bindings fields

end

end Template

end Waymark
