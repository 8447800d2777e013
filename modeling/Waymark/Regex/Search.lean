import Waymark.Regex.Program

/-!
This module contains the search with a program. All threads of the program move over the text
together, in the order in which the program prefers them, and no two of them stand at one
instruction; so a search takes one pass over the text. Until something is found, a thread sets out
at each place, behind those that set out before it: the leftmost match is preferred to all others.
-/

namespace Waymark
namespace Regex
namespace Program

structure Thread where
  address : Nat
  start : Nat
  deriving DecidableEq, Inhabited

def visit (code : Array Instruction) (prev next : Option Char) :
    Nat → (todo : List Thread) → (visited : Nat) → (reached : List Thread) → List Thread
  | 0, _, _, reached => reached
  | _ + 1, [], _, reached => reached
  | fuel + 1, thread :: todo, visited, reached =>
    if visited.testBit thread.address then
      visit code prev next fuel todo visited reached
    else
      let visited := visited ||| (1 <<< thread.address)
      match code[thread.address]? with
      | some (.branch first second) =>
        visit code prev next fuel
          ({ thread with address := first } :: { thread with address := second } :: todo)
          visited reached
      | some (.check a follow) =>
        let todo :=
          if a.holds prev next then { thread with address := follow } :: todo else todo
        visit code prev next fuel todo visited reached
      | _ => visit code prev next fuel todo visited (thread :: reached)

def closure (code : Array Instruction) (prev next : Option Char) (threads : List Thread) :
    List Thread :=
  -- Each visited instruction adds at most two threads.
  (visit code prev next (2 * code.size + threads.length + 1) threads 0 []).reverse

def accepts (code : Array Instruction) (thread : Thread) : Bool :=
  code[thread.address]? == some .accept

def follow (code : Array Instruction) (c : Char) (thread : Thread) : Option Thread :=
  match code[thread.address]? with
  | some (.consume s next) => if s.contains c then some { thread with address := next } else none
  | _ => none

def isAnchored (program : Program) : Bool :=
  match program.code[program.start]? with
  | some (.check .textStart _) => true
  | _ => false

def search (program : Program) :
    (text : List Char) → (prev : Option Char) → (place : Nat) → (searching : Bool) →
      (threads : List Thread) → Option (Nat × Nat)
  | text, prev, place, searching, threads =>
    let reached := closure program.code prev text.head? threads
    let found := (reached.find? (accepts program.code)).map fun thread => (thread.start, place)
    match text with
    | [] => found
    | c :: cs =>
      -- A thread that accepts ends all threads behind it, and counts unless one before it does.
      let live := reached.takeWhile fun thread => !accepts program.code thread
      let moved := live.filterMap (follow program.code c)
      let searching := searching && found.isNone
      if !searching && moved.isEmpty then
        found
      else
        let threads := if searching then moved ++ [⟨program.start, place + 1⟩] else moved
        search program cs (some c) (place + 1) searching threads <|> found

def find (program : Program) (text : List Char) : Option (Nat × Nat) :=
  (search program text none 0 (!program.isAnchored) [⟨program.start, 0⟩]).map
    fun (start, stop) => (start, stop - start)

end Program
end Regex
end Waymark
