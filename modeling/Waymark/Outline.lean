import Waymark.Parser
import Waymark.Text.Quoted

/-!
This module contains outlines, the tree that is shown of a parser when a grammar is inspected, and
their two layouts: on one line, and with one part on each line.
-/

namespace Waymark

inductive Outline where
  | text (t : String)
  | wrapped (name : String) (part : Outline)
  | fields (name : String) (parts : List (String × Outline))
  deriving Inhabited

namespace Outline

mutual

def line : Outline → String
  | .text t => Text.quote t
  | .wrapped name part => name ++ "(" ++ line part ++ ")"
  | .fields name parts => name ++ " \x7b " ++ ", ".intercalate (lineParts parts) ++ " \x7d"

def lineParts : List (String × Outline) → List String
  | [] => []
  | (name, part) :: parts => (name ++ ": " ++ line part) :: lineParts parts

end

def indent (depth : Nat) : String :=
  String.ofList (List.replicate (4 * depth) ' ')

mutual

def block (depth : Nat) : Outline → String
  | .text t => Text.quote t
  | .wrapped name part =>
    name ++ "(\n" ++ indent (depth + 1) ++ block (depth + 1) part ++ ",\n" ++ indent depth ++ ")"
  | .fields name parts =>
    name ++ " \x7b\n" ++ blockParts (depth + 1) parts ++ indent depth ++ "\x7d"

def blockParts (depth : Nat) : List (String × Outline) → String
  | [] => ""
  | (name, part) :: parts =>
    indent depth ++ name ++ ": " ++ block depth part ++ ",\n" ++ blockParts depth parts

end

end Outline

def Regex.outline (re : Regex) : Outline :=
  .wrapped "Regex" (.text re.source)

def Pattern.outline (p : Pattern) : Outline :=
  .fields "Pattern" [("source", .text p.source), ("regex", p.regex.outline)]

def Parser.outline? : Parser → Option Outline
  | .pattern p => some p.outline
  | .eatUntil terminal => some (.fields "EatUntil" [("terminal", terminal.outline)])
  | .mapError body _ =>
    body.outline?.map fun part =>
      .fields "ErrorMap" [("parser", part), ("mapper", .text "<function>")]
  | _ => none

end Waymark
