import Waymark.Text.Blank

/-!
This module contains the distinction between the tokens that carry a parse and the separators
between them.
-/

namespace Waymark
namespace Text

def isInsignificant (text : List Char) : Bool :=
  text == [','] || text.all isBlank

end Text
end Waymark
