import Waymark.Text.Bytes
import Waymark.Text.Lines

/-!
This module contains places in a text and how they are shown to a reader: by line and byte offset,
and by a window of lines with a pointer under the place. Lines are counted from 1; bytes need no
agreement on the width of characters and tabs.
-/

namespace Waymark

structure Location where
  code : String
  offset : Nat
  deriving DecidableEq, Inhabited

structure Position where
  line : Nat
  byteOffset : Nat
  deriving DecidableEq, Inhabited

namespace Position

def advance (start : Position) (n : Nat) : List Char → Position
  | [] => ⟨start.line, start.byteOffset + n⟩
  | c :: cs =>
    if n < c.utf8Size then
      ⟨start.line, start.byteOffset + n⟩
    else if c = '\n' then
      advance ⟨start.line + 1, 0⟩ (n - c.utf8Size) cs
    else
      advance ⟨start.line, start.byteOffset + c.utf8Size⟩ (n - c.utf8Size) cs

end Position

namespace Location

def position (loc : Location) : Position :=
  Position.advance ⟨1, 0⟩ loc.offset loc.code.toList

def gutter (current number : Nat) : String :=
  (if number = current then "  > " else "    ") ++ toString number ++ " | "

def pointer (column : Nat) : String :=
  String.ofList (List.replicate column ' ') ++ "^--- here"

def contextLines (loc : Location) : List String :=
  let current := loc.position
  ((Text.lines loc.code.toList).zipIdx 1).flatMap fun (content, number) =>
    if number + 2 < current.line ∨ current.line + 2 < number then
      []
    else
      let lead := gutter current.line number
      let shown := lead ++ String.ofList content
      if number = current.line then
        [shown, pointer (lead.length + current.byteOffset)]
      else
        [shown]

def render (loc : Location) : String :=
  let current := loc.position
  s!"line {current.line}, byte offset {current.byteOffset} (absolute position: {loc.offset})\n\n" ++
    String.join (loc.contextLines.map (· ++ "\n"))

end Location

structure ParseError where
  message : String
  chain : List String
  location : Location
  deriving DecidableEq, Inhabited

namespace ParseError

def render (e : ParseError) : String :=
  "Parse error at " ++ e.location.render ++ e.message

end ParseError

end Waymark
