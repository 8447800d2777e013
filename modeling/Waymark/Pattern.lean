import Waymark.Regex

/-!
This module contains patterns: regular expressions that are matched at the start of the unconsumed
text.
-/

namespace Waymark

/--
An expression as it was written, and the expression that is searched for it, which asks for the
start of the text first.
-/
structure Pattern where
  source : String
  regex : Regex
  deriving DecidableEq, Inhabited

namespace Pattern

def anchored (source : String) : String :=
  "^(?:" ++ source ++ ")"

def read (source : String) : Except Regex.SyntaxError Pattern := do
  return ⟨source, ← Regex.read (anchored source)⟩

def matchSize? (p : Pattern) (text : List Char) : Option Nat :=
  (p.regex.find? text).map (·.stop)

def ofNode (source : String) (node : Regex.Node) : Pattern :=
  ⟨source, anchored source, .ofNode (.cat (.assert .textStart) node)⟩

def letters : Pattern :=
  ofNode "[A-Za-z]+"
    (.repeat (.set (.union (.range 'A' 'Z') (.range 'a' 'z'))) 1 none true)

def digits : Pattern :=
  ofNode "[0-9]+" (.repeat (.set (.range '0' '9')) 1 none true)

def blanks : Pattern :=
  ofNode "\\s+" (.repeat (.set Character.blank) 1 none true)

def optionalBlanks : Pattern :=
  ofNode "\\s*" (.repeat (.set Character.blank) 0 none true)

theorem read_letters : read "[A-Za-z]+" = .ok letters := rfl

theorem read_digits : read "[0-9]+" = .ok digits := rfl

theorem read_blanks : read "\\s+" = .ok blanks := rfl

theorem read_optionalBlanks : read "\\s*" = .ok optionalBlanks := rfl

end Pattern

structure PatternError where
  pattern : String
  cause : Regex.SyntaxError
  deriving DecidableEq, Inhabited

namespace PatternError

def message (e : PatternError) : String :=
  "invalid pattern `" ++ e.pattern ++ "`"

end PatternError

end Waymark
