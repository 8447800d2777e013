import Waymark.Draft.Mapper
import Waymark.Draft.Template
import Waymark.Parser.Primitive

/-!
This module contains drafts: parsers put together from parts that may be wrong, such as a regular
expression that cannot be read. A draft is the parser, or the first thing found wrong when its parts
are taken from left to right, those inside first.
-/

namespace Waymark

inductive DraftError where
  | pattern (e : PatternError)
  | fault (cause : Fault)
  deriving DecidableEq, Inhabited

abbrev Draft := Except DraftError Parser

namespace Draft

def late : Draft → Parser
  | .ok p => p
  | .error (.pattern e) => .fail e.message
  | .error (.fault cause) => .transform fun _ => Effect.raise cause

def pattern (source : String) : Draft :=
  match Pattern.read source with
  | .ok p => .ok (.pattern p)
  | .error cause => .error (.pattern ⟨source, cause⟩)

def eatUntil (terminal : String) : Draft :=
  match Regex.read terminal with
  | .ok re => .ok (.eatUntil re)
  | .error cause => .error (.pattern ⟨terminal, cause⟩)

def savedState (target : String) (index : Option Nat) (result : Option Value) (mark : Option Mark)
    (failures : List String) : Except Fault State := do
  let s : State := { target, registry := 0 }
  let s ← match index with
    | none => pure s
    | some index => s.advance index .null
  let s := { s with result := result.getD s.result, mark := mark.getD s.mark }
  return failures.foldl State.fail s

def setState (saved : Except Fault State) : Draft :=
  match saved with
  | .ok s => .ok (.setState s)
  | .error cause => .error (.fault cause)

def sequence (parts : List Draft) : Draft :=
  return .sequence (← parts.mapM id)

def sequenceSepBy (separator : Draft) (parts : List Draft) : Draft :=
  return .sequenceSepBy (← separator) (← parts.mapM id)

def choice (parts : List Draft) : Draft :=
  return .choice (← parts.mapM id)

def many (body : Draft) : Draft :=
  return .many (← body)

def many1 (body : Draft) : Draft :=
  return .many1 (← body)

def sepBy (separator body : Draft) : Draft :=
  return .sepBy (← separator) (← body)

def sepBy1 (separator body : Draft) : Draft :=
  return .sepBy1 (← separator) (← body)

def between (opening content closing : Draft) : Draft :=
  return .between (← opening) (← content) (← closing)

def optional (body : Draft) : Draft :=
  return .optional (← body)

def keepLeft (left right : Draft) : Draft :=
  return .keepLeft (← left) (← right)

def keepRight (left right : Draft) : Draft :=
  return .keepRight (← left) (← right)

def map (body : Draft) (f : Mapper) : Draft :=
  return .map (← body) f.apply

def mapError (body : Draft) (f : MessageMapper) : Draft :=
  return .mapError (← body) f.apply

def deferred (body : Draft) : Draft :=
  return .deferred body.late

def rules (drafts : List (String × Draft)) : Rules :=
  drafts.map fun (name, draft) => (name, draft.late)

end Draft

structure Switch where
  cases : List (String × Parser)
  otherwise : Parser
  deriving Inhabited

namespace Switch

def ofDrafts (cases : List (String × Draft)) (otherwise : Draft) : Switch :=
  ⟨Draft.rules cases, otherwise.late⟩

def select (switch : Switch) (v : Value) : Parser :=
  (v.asText?.bind fun text => switch.cases.lookup text).getD switch.otherwise

end Switch

end Waymark
