import Waymark.Effect
import Waymark.Pattern

/-!
This module contains parsers as trees. What a parser does with a state is said in
`Waymark.Parser.Run`.
-/

namespace Waymark

mutual

/--
A parser. The primitives look at the unconsumed text; the others run parsers they are made of.
`chain` and `contextual` choose what to run from the states reached so far and the suggestions at
that time; `rule` names a parser of the grammar, which may refer to itself in this way; `transform`
is any step from a state to the next.
-/
inductive Parser where
  | literal (text : String)
  | pattern (p : Pattern)
  | eatUntil (terminal : Regex)
  | anyChar
  | endOfInput
  | peek
  | getState
  | setState (saved : State)
  | succeed (value : Value)
  | fail (message : String)
  | sequence (parsers : List Parser)
  | sequenceSepBy (separator : Parser) (parsers : List Parser)
  | choice (parsers : List Parser)
  | many (body : Parser)
  | many1 (body : Parser)
  | sepBy (separator body : Parser)
  | sepBy1 (separator body : Parser)
  | between (opening content closing : Parser)
  | optional (body : Parser)
  | keepLeft (left right : Parser)
  | keepRight (left right : Parser)
  | map (body : Parser) (f : Value → Value)
  | chain (first : Parser) (next : State → Suggestions → Parser)
  | mapError (body : Parser) (f : String → Nat → String)
  | deferred (body : Parser)
  | rule (name : String)
  | contextual (body : State → Suggestions → Body)
  | transform (f : State → Effect State)

/--
What a contextual parser does from some point on: end with a value, stop where it is, run a parser,
or flag the state as failed. It sees the state after each of the last two and may go on in any case.
-/
inductive Body where
  | finish (value : Value)
  | halt
  | bind (p : Parser) (next : State → Suggestions → Body)
  | fail (message : String) (next : State → Suggestions → Body)

end

instance : Inhabited Parser := ⟨.getState⟩

instance : Inhabited Body := ⟨.halt⟩

abbrev Rules := List (String × Parser)

namespace Rules

def resolve (rules : Rules) (name : String) : Parser :=
  (rules.lookup name).getD (.fail ("undefined rule " ++ name))

end Rules

namespace Parser

def letters : Parser :=
  .pattern .letters

def digits : Parser :=
  .pattern .digits

def whitespace : Parser :=
  .pattern .blanks

def optionalWhitespace : Parser :=
  .pattern .optionalBlanks

def token (p : Parser) : Parser :=
  .keepLeft p .optionalWhitespace

end Parser

end Waymark
