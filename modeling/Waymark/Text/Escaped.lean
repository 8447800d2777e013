import Waymark.Character.Derived
import Waymark.Character.Recent

/-!
This module contains the characters that quoting writes by their number: those that attach to the
character before them, and those without a printed form, which are the controls, format characters,
unassigned and private characters, all separators but the space, and what may be left out when a
text is shown, such as the fillers of Hangul.
-/

namespace Waymark
namespace Text

def unprinted : CharSet :=
  .diff (.unionAll [Character.separator, Character.other, Character.defaultIgnorable])
    (.union (.single ' ') (.table Character.recent))

def attached : CharSet :=
  .diff (.union Character.graphemeExtend (.table Character.recentGraphemeExtend))
    (.range '\uff9e' '\uff9f')

def isEscaped (c : Char) : Bool :=
  unprinted.contains c || attached.contains c

end Text
end Waymark
