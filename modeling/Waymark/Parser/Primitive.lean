import Waymark.Parser
import Waymark.Text.Significance
import Waymark.Value.Render

/-!
This module contains the two ways in which a primitive parser ends: it consumes a span of the text,
or it misses, notes what it expected, and fails.
-/

namespace Waymark
namespace State

def consume (s : State) (size : Nat) : Effect State :=
  match s.target.slice s.index size with
  | none => Effect.raise (.splitCharacter s.index)
  | some text => do
    let token := String.ofList text
    let stop := s.index + size
    let moved ← Effect.ofExcept (s.advance stop (.token token))
    pure (if Text.isInsignificant text then moved else moved.withMark (.ofToken token s.index stop))

def suggestionKey (s : State) : String :=
  if !s.mark.isEmpty && s.mark.tokenIndex == s.index then s.mark.token else s.result.render

def snippetLength : Nat := 10

def found (s : State) : String :=
  if s.rest.isEmpty then
    "unexpected end of input"
  else
    Text.quote (String.ofList (s.rest.take snippetLength))

def missMessage (s : State) (expected : String) : String :=
  let preceding := if s.mark.isEmpty then "" else " after " ++ Text.quote s.mark.token
  s!"expected {expected}{preceding} at index {s.index}, got {s.found}"

def miss (s : State) (expected pattern : String) : Effect State := do
  Effect.update (·.record s.registry s.suggestionKey pattern)
  Effect.update (·.log (.missed ⟨s, expected, pattern⟩))
  pure (s.fail (s.missMessage expected))

@[inline]
def unlessError (s : State) (act : Effect State) : Effect State :=
  if s.isError then pure s else act

theorem unlessError_of_isError {s : State} (hs : s.isError = true) (act : Effect State) :
    s.unlessError act = pure s := by
  unfold unlessError
  rw [if_pos hs]

theorem unlessError_of_live {s : State} (hs : s.isError = false) (act : Effect State) :
    s.unlessError act = act := by
  unfold unlessError
  rw [if_neg (by rw [hs]; exact Bool.false_ne_true)]

end State

namespace Parser

def runLiteral (text : String) (s : State) : Effect State :=
  if !text.isEmpty && s.isAtEnd then
    s.miss (Text.quote text) text
  else if text.toList.isPrefixOf s.rest then
    s.consume (Text.size text.toList)
  else
    s.miss (Text.quote text) text

def runPattern (p : Pattern) (s : State) : Effect State :=
  match p.matchSize? s.rest with
  | some size => s.consume size
  | none => s.miss ("/" ++ p.source ++ "/") p.source

def runEatUntil (terminal : Regex) (s : State) : Effect State :=
  match terminal.find? s.rest with
  | some span => s.consume span.start
  | none => s.consume (Text.size s.rest)

def runAnyChar (s : State) : Effect State :=
  match s.rest with
  | c :: _ => s.consume c.utf8Size
  | [] => s.miss "any character" "."

def runEndOfInput (s : State) : Effect State :=
  if s.isAtEnd then
    pure (s.withResult .null)
  else
    s.miss "end of input" "$"

def runPeek (s : State) : Effect State :=
  match s.rest with
  | c :: _ => pure (s.withResult (.token c.toString))
  | [] => pure (s.withResult .null)

end Parser

end Waymark
