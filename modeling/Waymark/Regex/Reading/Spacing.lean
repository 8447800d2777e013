import Waymark.Text.Blank

/-!
This module contains what the readers of regular expressions share: their errors, the flags that
change how an expression is read, and the passing over of blanks and comments where a flag allows
them.
-/

namespace Waymark
namespace Regex

inductive SyntaxError where
  | unexpectedEnd
  | unclosedGroup
  | unopenedGroup
  | unclosedSet
  | nothingToRepeat
  | badCount
  | badCountRange
  | unknownEscape (c : Char)
  | badCodePoint
  | backReference
  | lookAround
  | badFlags
  | badGroupName
  | repeatedGroupName
  | badRange
  | badSetItem
  | badWordEdge
  | unknownProperty (name : String)
  | outsideAscii
  | tooDeep
  | tooLarge
  deriving DecidableEq, Inhabited

structure Flags where
  ignoreCase : Bool := false
  multiLine : Bool := false
  dotAll : Bool := false
  swapGreed : Bool := false
  asciiOnly : Bool := false
  crlf : Bool := false
  spaced : Bool := false
  deriving DecidableEq, Inhabited

def dropSpacing (inComment : Bool) : List Char → List Char
  | [] => []
  | c :: cs =>
    if inComment then dropSpacing (c != '\n') cs
    else if Text.isBlank c then dropSpacing false cs
    else if c = '#' then dropSpacing true cs
    else c :: cs

def skip (spaced : Bool) (cs : List Char) : List Char :=
  if spaced then dropSpacing false cs else cs

def dropPeeked (inComment : Bool) : List Char → Option (List Char)
  | [] => none
  | c :: cs =>
    if Text.isBlank c then dropPeeked inComment cs
    -- Only the first number sign starts a comment, and the comment is not passed over.
    else if !inComment && c == '#' then dropPeeked true cs
    else some (c :: cs)

def peek? (spaced : Bool) (cs : List Char) : Option Char :=
  if spaced then ((dropPeeked false cs).getD cs).head? else cs.head?

def takeRun (kind : Char → Bool) (spaced : Bool) (inComment : Bool) :
    List Char → List Char × List Char
  | [] => ([], [])
  | c :: cs =>
    if inComment then takeRun kind spaced (c != '\n') cs
    else if spaced && Text.isBlank c then takeRun kind spaced false cs
    else if spaced && c == '#' then takeRun kind spaced true cs
    else if kind c then
      let (run, rest) := takeRun kind spaced false cs
      (c :: run, rest)
    else ([], c :: cs)

def after? : (start : List Char) → List Char → Option (List Char)
  | [], cs => some cs
  | _ :: _, [] => none
  | d :: start, c :: cs => if c = d then after? start cs else none

def readNumber (base : Nat) (digits : List Char) : Nat :=
  digits.foldl (fun n c => base * n + digitValue c) 0
where
  digitValue (c : Char) : Nat :=
    if c.isDigit then c.toNat - '0'.toNat
    else if c.isLower then c.toNat - 'a'.toNat + 10
    else c.toNat - 'A'.toNat + 10

end Regex
end Waymark
