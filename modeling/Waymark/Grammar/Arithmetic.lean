import Waymark.Parser
import Waymark.Value.Convert

/-!
This module contains a grammar of arithmetic expressions, as an example of rules that refer to
themselves and of computing a value along with the parse.

    expr    := product (("+" | "-") product)*
    product := atom ("*" atom)*
    atom    := digits | "(" expr ")"

Blanks may follow each token.
-/

namespace Waymark

namespace Grammar
namespace Arithmetic

def atom : Parser :=
  .choice
    [.map (.token .digits) Value.toInt,
     .between (.token (.literal "(")) (.rule "expr") (.token (.literal ")"))]

def product : Parser :=
  .map
    (.sequence [atom, .many (.sequence [.token (.literal "*"), atom])])
    Value.foldOperations

def expr : Parser :=
  .map
    (.sequence
      [product,
       .many (.sequence
        [.choice [.token (.literal "+"), .token (.literal "-")], product])])
    Value.foldOperations

def rules : Rules :=
  [("expr", expr)]

def whole : Parser :=
  .keepLeft expr .endOfInput

end Arithmetic
end Grammar
end Waymark
