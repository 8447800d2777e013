import Waymark.Regex.Reading.Bracket
import Waymark.Text.Alphanumeric

/-!
This module contains the reader of regular expressions: alternatives, repetitions, groups and flags.
A flag set on its own holds to the end of the group around it, its later alternatives included.
-/

namespace Waymark
namespace Regex

def Flags.literal (f : Flags) (c : Char) : Node :=
  .set (if f.asciiOnly && '\x7f' < c then .single c else f.fold (.single c))

def Flags.dot (f : Flags) : Except SyntaxError Node :=
  if f.asciiOnly then .error .outsideAscii
  else if f.dotAll then .ok (.set .any)
  else if f.crlf then .ok (.set (.compl (.union (.single '\n') (.single '\r'))))
  else .ok (.set (.compl (.single '\n')))

def Flags.ofAtom (f : Flags) : Atom → Node
  | .literal c => f.literal c
  | .set s => .set s
  | .assertion a => .assert a

def readSingle (f : Flags) : List Char → Except SyntaxError (Node × List Char)
  | [] => .error .unexpectedEnd
  | '\\' :: cs => do
    let (atom, rest) ← readEscape f cs
    return (f.ofAtom atom, rest)
  | '.' :: cs => do return (← f.dot, cs)
  | '^' :: cs => .ok (.assert (if f.multiLine then .lineStart f.crlf else .textStart), cs)
  | '$' :: cs => .ok (.assert (if f.multiLine then .lineEnd f.crlf else .textEnd), cs)
  | c :: cs => .ok (f.literal c, cs)

def Flags.set? (f : Flags) (letter : Char) (value : Bool) : Option Flags :=
  match letter with
  | 'i' => some { f with ignoreCase := value }
  | 'm' => some { f with multiLine := value }
  | 's' => some { f with dotAll := value }
  | 'U' => some { f with swapGreed := value }
  | 'u' => some { f with asciiOnly := !value }
  | 'R' => some { f with crlf := value }
  | 'x' => some { f with spaced := value }
  | _ => none

def readFlags (f : Flags) (seen : List Char) : List Char → Except SyntaxError (Flags × List Char)
  | [] => .error .badFlags
  | c :: cs =>
    if c = ':' ∨ c = ')' then
      if seen.head? = some '-' then .error .badFlags else .ok (f, c :: cs)
    else if seen.contains c then
      .error .badFlags
    else if c = '-' then
      readFlags f (c :: seen) cs
    else
      match f.set? c (!seen.contains '-') with
      | some f => readFlags f (c :: seen) cs
      | none => .error .badFlags

def isNameChar (first : Bool) (c : Char) : Bool :=
  if first then
    c == '_' || Text.isAlphabetic c
  else
    c == '_' || c == '.' || c == '[' || c == ']' || Text.isAlphanumeric c

def readGroupName (cs : List Char) : Except SyntaxError (String × List Char) :=
  match cs.span (· != '>') with
  | ([], _) | (_, []) => .error .badGroupName
  | (c :: name, _ :: rest) =>
    if isNameChar true c && name.all (isNameChar false) then
      .ok (String.ofList (c :: name), rest)
    else
      .error .badGroupName

inductive Opening where
  | flags (f : Flags)
  | group (name : Option String)
  | part (f : Flags)
  deriving DecidableEq, Inhabited

def readOpening (f : Flags) (cs : List Char) : Except SyntaxError (Opening × List Char) :=
  match skip f.spaced cs with
  | '?' :: '=' :: _ | '?' :: '!' :: _ | '?' :: '<' :: '=' :: _ | '?' :: '<' :: '!' :: _ =>
    .error .lookAround
  | '?' :: 'P' :: '<' :: cs | '?' :: '<' :: cs => do
    let (name, rest) ← readGroupName cs
    return (.group (some name), rest)
  | '?' :: ')' :: _ => .error .nothingToRepeat
  | '?' :: cs => do
    match ← readFlags f [] cs with
    | (f', ')' :: rest) => return (.flags f', rest)
    | (f', rest) => return (.part f', rest.drop 1)
  | cs => .ok (.group none, cs)

def readCount (spaced : Bool) (cs : List Char) : Except SyntaxError (Option Nat × List Char) :=
  let (digits, rest) := takeRun Char.isDigit spaced false (cs.dropWhile Text.isBlank)
  let rest := skip spaced (rest.dropWhile Text.isBlank)
  let n := readNumber 10 digits
  if digits.isEmpty then .ok (none, rest)
  else if n < UInt32.size then .ok (some n, rest)
  else .error .badCount

def readCounts (spaced : Bool) (cs : List Char) :
    Except SyntaxError (Nat × Option Nat × List Char) := do
  let (least, rest) ← readCount spaced (skip spaced cs)
  let some least := least | .error .badCount
  match rest with
  | '\x7d' :: rest => return (least, some least, rest)
  | ',' :: rest =>
    match skip spaced rest with
    | '\x7d' :: rest => return (least, none, rest)
    | rest =>
      match ← readCount spaced rest with
      | (some greatest, '\x7d' :: rest) =>
        if least ≤ greatest then
          return (least, some greatest, rest)
        else
          .error .badCountRange
      | _ => .error .badCount
  | _ => .error .badCount

abbrev Operands := List (Nested (Option Node))

namespace Operands

def push (operands : Operands) (operand : Nested Node) : Operands :=
  ⟨some operand.value, operand.depth⟩ :: operands

def pushGap (operands : Operands) : Operands :=
  .flat none :: operands

def toNode (operands : Operands) : Nested Node :=
  let node := match operands.filterMap (·.value) with
    | [] => .empty
    | last :: rest => rest.foldl (fun node operand => .cat operand node) last
  ⟨node, Nested.rowDepth operands⟩

def repeatLatest (f : Flags) (min : Nat) (max : Option Nat) (operands : Operands)
    (cs : List Char) : Except SyntaxError (Operands × List Char) :=
  match operands with
  | ⟨some body, depth⟩ :: rest =>
    let (greedy, cs) := match cs with
      | '?' :: cs => (f.swapGreed, cs)
      | _ => (!f.swapGreed, cs)
    .ok (push rest ⟨body.rounds min max greedy, depth + 1⟩, cs)
  | _ => .error .nothingToRepeat

end Operands

abbrev Alternatives := Option (Nested Node)

namespace Alternatives

def push (earlier : Alternatives) (node : Nested Node) : Alternatives :=
  match earlier with
  | none => some node
  | some earlier => some ⟨.alt earlier.value node.value, max earlier.depth node.depth⟩

def toNode (earlier : Alternatives) (last : Nested Node) : Nested Node :=
  match earlier with
  | none => last
  | some earlier => Nested.join .alt earlier last

end Alternatives

def readAlternatives :
    Nat → (f : Flags) → (earlier : Alternatives) → Operands → List Char →
      Except SyntaxError (Nested Node × List Char)
  | 0, _, _, _, _ => .error .unexpectedEnd
  | fuel + 1, f, earlier, operands, cs =>
    match skip f.spaced cs with
    | [] => .ok (earlier.toNode operands.toNode, [])
    | ')' :: rest => .ok (earlier.toNode operands.toNode, ')' :: rest)
    | '|' :: rest => readAlternatives fuel f (earlier.push operands.toNode) [] rest
    | '(' :: rest => do
      let (opening, rest) ← readOpening f rest
      match opening with
      | .flags f' => readAlternatives fuel f' earlier operands.pushGap rest
      | .group name =>
        match ← readAlternatives fuel f none [] rest with
        | (body, _ :: rest) =>
          readAlternatives fuel f earlier (operands.push (.wrap (.group name) body)) rest
        | (_, []) => .error .unclosedGroup
      | .part f' =>
        match ← readAlternatives fuel f' none [] rest with
        | (body, _ :: rest) =>
          readAlternatives fuel f earlier (operands.push (.wrap id body)) rest
        | (_, []) => .error .unclosedGroup
    | '[' :: rest => do
      let (s, rest) ← readSet f rest
      readAlternatives fuel f earlier (operands.push ⟨.set s.value, s.depth⟩) rest
    | '?' :: rest => do
      let (operands, rest) ← operands.repeatLatest f 0 (some 1) rest
      readAlternatives fuel f earlier operands rest
    | '*' :: rest => do
      let (operands, rest) ← operands.repeatLatest f 0 none rest
      readAlternatives fuel f earlier operands rest
    | '+' :: rest => do
      let (operands, rest) ← operands.repeatLatest f 1 none rest
      readAlternatives fuel f earlier operands rest
    | '\x7b' :: rest => do
      let (min, max, rest) ← readCounts f.spaced rest
      let (operands, rest) ← operands.repeatLatest f min max (skip f.spaced rest)
      readAlternatives fuel f earlier operands rest
    | cs => do
      let (node, rest) ← readSingle f cs
      readAlternatives fuel f earlier (operands.push (.flat node)) rest

def Node.read (source : String) : Except SyntaxError Node := do
  -- Each step of the reader takes at least one character.
  match ← readAlternatives (source.length + 1) {} none [] source.toList with
  | (node, []) =>
    if ¬node.value.groupNames.Nodup then .error .repeatedGroupName
    else if depthLimit < node.depth then .error .tooDeep
    else return node.value
  | (_, _ :: _) => .error .unopenedGroup

end Regex
end Waymark
