import Waymark.Parser.DoBlock
import Waymark.Value.Convert

/-!
This module contains a grammar of declarations, as an example of records made from named results.

    program     := declaration (";" declaration)*
    declaration := ("let" | "const") name "=" value
    value       := number | "[" (number ("," number)*)? "]"

Blanks may follow each token.
-/

namespace Waymark
namespace Grammar
namespace Declarations

def number : Parser :=
  .map (.token .digits) Value.toInt

def value : Parser :=
  .choice
    [number,
     .between
      (.token (.literal "["))
      (.sepBy (.token (.literal ",")) number)
      (.token (.literal "]"))]

def declaration : Parser :=
  .doBlock
    [.bind "keyword" (.token (.choice [.literal "let", .literal "const"])),
     .bind "name" (.token .letters),
     .run (.token (.literal "=")),
     .bind "value" value]
    fun bindings =>
      .ofFields
        [("keyword", bindings.value "keyword"),
         ("name", bindings.value "name"),
         ("value", bindings.value "value")]

def program : Parser :=
  .keepLeft (.sepBy1 (.token (.literal ";")) declaration) .endOfInput

end Declarations
end Grammar
end Waymark
