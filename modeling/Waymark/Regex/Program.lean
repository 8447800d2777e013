import Waymark.Regex.Node

/-!
This module contains the programs that regular expressions are searched with: instructions that pass
on a character, check a place or branch, each of which names the instruction that follows. A program
is emitted from its end to its start, so that what follows is known when an instruction is written.
-/

namespace Waymark
namespace Regex

inductive Instruction where
  | accept
  | consume (s : CharSet) (next : Nat)
  | check (a : Assertion) (next : Nat)
  | branch (first second : Nat)
  deriving DecidableEq, Inhabited

structure Program where
  code : Array Instruction
  start : Nat
  deriving DecidableEq, Inhabited

abbrev Emitter := Nat → Array Instruction → Nat × Array Instruction

namespace Emitter

def choose (greedy : Bool) (round next : Nat) : Instruction :=
  if greedy then .branch round next else .branch next round

def plus (body : Emitter) (greedy : Bool) : Emitter := fun next code =>
  let again := code.size
  -- The branch is written once it is known where a round starts.
  let (round, code) := body again (code.push .accept)
  (round, code.setIfInBounds again (choose greedy round next))

def optional (body : Emitter) (greedy : Bool) : Emitter := fun next code =>
  let (round, code) := body next code
  (code.size, code.push (choose greedy round next))

def star (body : Emitter) (nullable greedy : Bool) : Emitter :=
  -- With rounds that may be empty, a single branch would not keep the order of preference.
  if nullable then
    optional (plus body greedy) greedy
  else fun next code =>
    let again := code.size
    let (round, code) := body again (code.push .accept)
    (again, code.setIfInBounds again (choose greedy round next))

def times (body : Emitter) : Nat → Emitter
  | 0 => fun next code => (next, code)
  | n + 1 => fun next code =>
    let (last, code) := body next code
    times body n last code

def upTo (body : Emitter) (greedy : Bool) : Nat → Emitter
  | 0 => fun next code => (next, code)
  | n + 1 => fun next code =>
    let (more, code) := upTo body greedy n next code
    let (round, code) := body more code
    (code.size, code.push (choose greedy round next))

def ofNode : Node → Emitter
  | .empty => fun next code => (next, code)
  | .set s => fun next code => (code.size, code.push (.consume s next))
  | .assert a => fun next code => (code.size, code.push (.check a next))
  | .cat a b => fun next code =>
    let (second, code) := ofNode b next code
    ofNode a second code
  | .alt a b => fun next code =>
    let (left, code) := ofNode a next code
    let (right, code) := ofNode b next code
    (code.size, code.push (.branch left right))
  | .repeat body min max greedy =>
    match max with
    | some max => fun next code =>
      let (tail, code) := upTo (ofNode body) greedy (max - min) next code
      times (ofNode body) min tail code
    | none => fun next code =>
      match min with
      | 0 => star (ofNode body) body.nullable greedy next code
      | n + 1 =>
        let (tail, code) := plus (ofNode body) greedy next code
        times (ofNode body) n tail code
  | .group _ body => ofNode body

end Emitter

def Program.ofNode (node : Node) : Program :=
  let (start, code) := Emitter.ofNode node 0 #[.accept]
  ⟨code, start⟩

end Regex
end Waymark
