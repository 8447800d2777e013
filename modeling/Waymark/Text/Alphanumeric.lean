import Waymark.Character.Derived
import Waymark.Character.Recent

/-!
This module contains the characters that names are made of: the alphabetic characters and the
numbers.
-/

namespace Waymark
namespace Text

def isAlphabetic (c : Char) : Bool :=
  Character.alphabetic.contains c || Character.recentAlphabetic.contains c

def isNumber (c : Char) : Bool :=
  Character.number.contains c || Character.recentNumber.contains c

def isAlphanumeric (c : Char) : Bool :=
  isAlphabetic c || isNumber c

end Text
end Waymark
