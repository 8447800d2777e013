import Waymark.Regex.Reading.Escape
import Waymark.Regex.Reading.Nested

/-!
This module contains the reader of sets in brackets: single characters, ranges, escapes, named sets
of ASCII and nested sets, joined by union or by the operators for intersection, difference and
symmetric difference, which all bind alike and to the left.
-/

namespace Waymark
namespace Regex

structure Items where
  set : CharSet
  count : Nat
  depth : Nat
  deriving DecidableEq, Inhabited

namespace Items

def empty : Items :=
  ⟨.empty, 0, 0⟩

def push (items : Items) (item : Nested CharSet) : Items :=
  ⟨if items.count = 0 then item.value else .union items.set item.value, items.count + 1,
    max items.depth item.depth⟩

def toSet (items : Items) : Nested CharSet :=
  ⟨items.set, if items.count ≤ 1 then items.depth else items.depth + 1⟩

end Items

inductive SetOperator where
  | inter
  | diff
  | symmDiff
  deriving DecidableEq, Inhabited

def SetOperator.apply : SetOperator → CharSet → CharSet → CharSet
  | .inter => .inter
  | .diff => .diff
  | .symmDiff => .symmDiff

abbrev Pending := Option (SetOperator × Nested CharSet)

def Pending.apply (f : Flags) (items : Items) : Pending → Nested CharSet
  | none => items.toSet
  | some (operator, left) =>
    Nested.join (fun a b => operator.apply (f.fold a) (f.fold b)) left items.toSet

def asciiRanges? (name : List Char) : Option (List (Char × Char)) :=
  match String.ofList name with
  | "alnum" => some [('0', '9'), ('A', 'Z'), ('a', 'z')]
  | "alpha" => some [('A', 'Z'), ('a', 'z')]
  | "ascii" => some [('\x00', '\x7f')]
  | "blank" => some [('\t', '\t'), (' ', ' ')]
  | "cntrl" => some [('\x00', '\x1f'), ('\x7f', '\x7f')]
  | "digit" => some [('0', '9')]
  | "graph" => some [('!', '~')]
  | "lower" => some [('a', 'z')]
  | "print" => some [(' ', '~')]
  | "punct" => some [('!', '/'), (':', '@'), ('[', '\x60'), ('\x7b', '~')]
  | "space" => some [('\t', '\r'), (' ', ' ')]
  | "upper" => some [('A', 'Z')]
  | "word" => some [('0', '9'), ('A', 'Z'), ('_', '_'), ('a', 'z')]
  | "xdigit" => some [('0', '9'), ('A', 'F'), ('a', 'f')]
  | _ => none

def readAsciiSet? (f : Flags) (cs : List Char) :
    Option (Except SyntaxError CharSet × List Char) := do
  let cs ← after? [':'] cs
  let (negated, cs) := match cs with
    | '^' :: cs => (true, cs)
    | _ => (false, cs)
  let (name, rest) := cs.span (· != ':')
  let rest ← after? [':', ']'] rest
  let ranges ← asciiRanges? name
  return (f.complement negated (f.fold (CharSet.ofRanges ranges)), rest)

def readSetAtom (f : Flags) : List Char → Except SyntaxError (Atom × List Char)
  | [] => .error .unclosedSet
  | '\\' :: cs => readEscape f cs
  | c :: cs => .ok (.literal c, cs)

def rangeSet (f : Flags) (first last : Char) : Except SyntaxError CharSet :=
  if f.asciiOnly && '\x7f' < last then .error .outsideAscii
  else if last < first then .error .badRange
  else .ok (.range first last)

def Atom.toSet (f : Flags) : Atom → Except SyntaxError CharSet
  | .literal c => rangeSet f c c
  | .set s => .ok s
  | .assertion _ => .error .badSetItem

def readSetItem (f : Flags) (cs : List Char) : Except SyntaxError (CharSet × List Char) := do
  let (first, rest) ← readSetAtom f cs
  match skip f.spaced rest with
  | [] => .error .unclosedSet
  | '-' :: tail =>
    if peek? f.spaced tail = some ']' ∨ peek? f.spaced tail = some '-' then
      return (← first.toSet f, '-' :: tail)
    else
      let (last, rest) ← readSetAtom f (skip f.spaced tail)
      match first, last with
      | .literal first, .literal last => return (← rangeSet f first last, rest)
      | _, _ => .error .badRange
  | rest => return (← first.toSet f, rest)

def readSetOpening (spaced : Bool) (cs : List Char) : Bool × Items × List Char :=
  let cs := skip spaced cs
  let (negated, cs) := match cs with
    | '^' :: rest => (true, skip spaced rest)
    | _ => (false, cs)
  match takeRun (· == '-') spaced false cs with
  | ([], ']' :: rest) => (negated, ⟨.single ']', 1, 0⟩, rest)
  | ([], rest) => (negated, .empty, rest)
  | (hyphens, rest) => (negated, ⟨.single '-', hyphens.length, 0⟩, rest)

def readSetItems (f : Flags) :
    Nat → Pending → Items → List Char → Except SyntaxError (Nested CharSet × List Char)
  | 0, _, _, _ => .error .unclosedSet
  | fuel + 1, pending, items, cs =>
    let operate (operator : SetOperator) (rest : List Char) :=
      readSetItems f fuel (some (operator, pending.apply f items)) .empty rest
    match skip f.spaced cs with
    | [] => .error .unclosedSet
    | ']' :: rest => .ok (pending.apply f items, rest)
    | '[' :: rest =>
      match readAsciiSet? f rest with
      | some (s, rest) => do readSetItems f fuel pending (items.push (.flat (← s))) rest
      | none => do
        let (negated, first, inner) := readSetOpening f.spaced rest
        let (s, rest) ← readSetItems f fuel none first inner
        let value ← f.complement negated (f.fold s.value)
        readSetItems f fuel pending (items.push ⟨value, s.depth + 1⟩) rest
    | '&' :: '&' :: rest => operate .inter rest
    | '-' :: '-' :: rest => operate .diff rest
    | '~' :: '~' :: rest => operate .symmDiff rest
    | cs => do
      let (s, rest) ← readSetItem f cs
      readSetItems f fuel pending (items.push (.flat s)) rest

def readSet (f : Flags) (cs : List Char) : Except SyntaxError (Nested CharSet × List Char) := do
  let (negated, first, inner) := readSetOpening f.spaced cs
  -- Each item takes at least one character.
  let (s, rest) ← readSetItems f (inner.length + 1) none first inner
  return (⟨← f.complement negated (f.fold s.value), s.depth + 1⟩, rest)

end Regex
end Waymark
