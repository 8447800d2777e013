import Waymark.Character.Property
import Waymark.Regex.Node
import Waymark.Regex.Reading.Spacing

/-!
This module contains the reader of escapes, the sequences that a backslash begins.
-/

namespace Waymark
namespace Regex

inductive Atom where
  | literal (c : Char)
  | set (s : CharSet)
  | assertion (a : Assertion)
  deriving DecidableEq, Inhabited

def Flags.fold (f : Flags) (s : CharSet) : CharSet :=
  if f.ignoreCase then
    if f.asciiOnly then .inter (.foldCase s) .ascii else .foldCase s
  else
    s

def Flags.complement (f : Flags) (negated : Bool) (s : CharSet) : Except SyntaxError CharSet :=
  if negated then
    if f.asciiOnly then .error .outsideAscii else .ok (.compl s)
  else
    .ok s

def Flags.known (f : Flags) (s : CharSet) : CharSet :=
  if f.asciiOnly then .inter s .ascii else s

def charOfCode (n : Nat) : Except SyntaxError Char :=
  if n.isValidChar then .ok (Char.ofNat n) else .error .badCodePoint

def isHexDigit (c : Char) : Bool :=
  c.isDigit || ('a' ≤ c && c ≤ 'f') || ('A' ≤ c && c ≤ 'F')

def readHexDigits (spaced : Bool) : Nat → List Char → Except SyntaxError (List Char × List Char)
  | 0, cs => .ok ([], cs)
  | _ + 1, [] => .error .unexpectedEnd
  | n + 1, c :: cs =>
    if isHexDigit c then do
      let (digits, rest) ← readHexDigits spaced n (skip spaced cs)
      return (c :: digits, rest)
    else
      .error .badCodePoint

def readHex (spaced : Bool) (width : Nat) (cs : List Char) :
    Except SyntaxError (Char × List Char) :=
  match skip spaced cs with
  | '\x7b' :: cs =>
    match takeRun (· != '\x7d') spaced false cs with
    | (digits, _ :: rest) =>
      if digits.isEmpty || !digits.all isHexDigit then
        .error .badCodePoint
      else do
        return (← charOfCode (readNumber 16 digits), skip spaced rest)
    | (_, []) => .error .unexpectedEnd
  | cs => do
    let (digits, rest) ← readHexDigits spaced width cs
    return (← charOfCode (readNumber 16 digits), rest)

def splitAt? (separator : List Char) : List Char → Option (List Char × List Char)
  | [] => none
  | c :: cs =>
    match after? separator (c :: cs) with
    | some rest => some ([], rest)
    | none => (splitAt? separator cs).map fun (before, rest) => (c :: before, rest)

def bracedSet? (text : List Char) : Option (Bool × CharSet) :=
  match splitAt? ['!', '='] text with
  | some (property, value) => (Character.valued? property value).map (true, ·)
  | none =>
    match splitAt? [':'] text <|> splitAt? ['='] text with
    | some (property, value) => (Character.valued? property value).map (false, ·)
    | none => (Character.named? text).map (false, ·)

def readNamedSet (f : Flags) (negated : Bool) (cs : List Char) :
    Except SyntaxError (Atom × List Char) :=
  let finish (name rest : List Char) : Except SyntaxError (Atom × List Char) :=
    if f.asciiOnly then
      .error .outsideAscii
    else
      match bracedSet? name with
      | some (unequal, s) => do return (.set (← f.complement (negated != unequal) (f.fold s)), rest)
      | none => .error (.unknownProperty (String.ofList name))
  match skip f.spaced cs with
  | [] => .error .unexpectedEnd
  | '\x7b' :: cs =>
    match takeRun (· != '\x7d') f.spaced false cs with
    | (name, _ :: rest) => finish name rest
    | (_, []) => .error .unexpectedEnd
  | '\\' :: _ => .error (.unknownProperty "\\")
  | c :: rest => finish [c] (skip f.spaced rest)

def readClass (f : Flags) (s : CharSet) (negated : Bool) (rest : List Char) :
    Except SyntaxError (Atom × List Char) := do
  return (.set (← f.complement negated (f.known s)), rest)

def isEdgeNameChar (c : Char) : Bool :=
  ('a' ≤ c && c ≤ 'z') || ('A' ≤ c && c ≤ 'Z') || c == '-'

def readWordEdge (spaced : Bool) (cs : List Char) :
    Except SyntaxError (WordEdge × List Char) :=
  match cs with
  | '\x7b' :: inner =>
    match takeRun isEdgeNameChar spaced false inner with
    | ([], []) => .error .unexpectedEnd
    | ([], _ :: _) => .ok (.boundary, cs)
    | (name, '\x7d' :: rest) =>
      match String.ofList name with
      | "start" => .ok (.start, rest)
      | "end" => .ok (.stop, rest)
      | "start-half" => .ok (.startHalf, rest)
      | "end-half" => .ok (.stopHalf, rest)
      | _ => .error .badWordEdge
    | (_, _) => .error .badWordEdge
  | _ => .ok (.boundary, cs)

def isEscapable (c : Char) : Bool :=
  c ≤ '\x7f' && !c.isAlphanum && c != '<' && c != '>'

def readEscape (f : Flags) : List Char → Except SyntaxError (Atom × List Char)
  | [] => .error .unexpectedEnd
  | c :: rest =>
    if c.isDigit then .error .backReference
    else if isEscapable c then .ok (.literal c, rest)
    else
      let hex (width : Nat) : Except SyntaxError (Atom × List Char) := do
        let (d, after) ← readHex f.spaced width rest
        if width = 2 ∧ f.asciiOnly ∧ '\x7f' < d ∧ (skip f.spaced rest).head? ≠ some '\x7b' then
          .error .outsideAscii
        else
          return (.literal d, after)
      let edge (e : WordEdge) : Atom := .assertion (.word e f.asciiOnly)
      match c with
      | 'x' => hex 2
      | 'u' => hex 4
      | 'U' => hex 8
      | 'p' => readNamedSet f false rest
      | 'P' => readNamedSet f true rest
      | 'd' => readClass f Character.digit false rest
      | 'D' => readClass f Character.digit true rest
      | 's' => readClass f Character.blank false rest
      | 'S' => readClass f Character.blank true rest
      | 'w' => readClass f Character.word false rest
      | 'W' => readClass f Character.word true rest
      | 'a' => .ok (.literal '\x07', rest)
      | 'f' => .ok (.literal '\x0c', rest)
      | 't' => .ok (.literal '\t', rest)
      | 'n' => .ok (.literal '\n', rest)
      | 'r' => .ok (.literal '\r', rest)
      | 'v' => .ok (.literal '\x0b', rest)
      | 'A' => .ok (.assertion .textStart, rest)
      | 'z' => .ok (.assertion .textEnd, rest)
      | 'b' => do
        let (e, rest) ← readWordEdge f.spaced rest
        return (edge e, rest)
      | 'B' => .ok (edge .interior, rest)
      | '<' => .ok (edge .start, rest)
      | '>' => .ok (edge .stop, rest)
      | _ => .error (.unknownEscape c)

end Regex
end Waymark
