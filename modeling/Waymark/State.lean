import Waymark.Input
import Waymark.Location
import Waymark.Mark
import Waymark.Value

/-!
This module contains the state that is threaded through a parse and its transitions. A transition
makes a new state; only the tables behind the registry are shared between states.
-/

namespace Waymark

abbrev RegistryId := Nat

inductive Fault where
  | pastEnd (index size : Nat)
  | splitCharacter (index : Nat)
  deriving DecidableEq, Inhabited

/--
How far a parse of a text has come: the offset, the latest result, the error if it has failed, every
message so far with the oldest first, the mark of the last significant token, and the registry that
its suggestions go to.
-/
structure State where
  target : Input
  index : Nat := 0
  result : Value := .null
  error : Option String := none
  chain : List String := []
  mark : Mark := {}
  registry : RegistryId
  deriving DecidableEq, Inhabited

namespace State

def size (s : State) : Nat :=
  s.target.size

def rest (s : State) : List Char :=
  (s.target.dropBytes s.index).getD []

def remaining (s : State) : String :=
  String.ofList s.rest

def isAtEnd (s : State) : Bool :=
  s.size ≤ s.index

def isError (s : State) : Bool :=
  s.error.isSome

def location (s : State) : Location :=
  ⟨s.target.text, s.index⟩

def advance (s : State) (index : Nat) (result : Value) : Except Fault State :=
  if index ≤ s.size then
    .ok { s with index, result }
  else
    .error (.pastEnd index s.size)

def withResult (s : State) (result : Value) : State :=
  { s with result }

def mapResult (s : State) (f : Value → Value) : State :=
  { s with result := f s.result }

def fail (s : State) (message : String) : State :=
  { s with error := some message, chain := s.chain ++ [message] }

def withMark (s : State) (mark : Mark) : State :=
  { s with mark }

def withDiagnosticsOf (s other : State) : State :=
  { s with chain := other.chain, mark := other.mark }

def withRegistryOf (s other : State) : State :=
  { s with registry := other.registry }

def toExcept (s : State) : Except ParseError Value :=
  match s.error with
  | none => .ok s.result
  | some message => .error ⟨message, s.chain, s.location⟩

end State

end Waymark
