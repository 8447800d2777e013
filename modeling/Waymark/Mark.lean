import Waymark.Text.Quoted

/-!
This module contains the mark that a parse leaves at the last significant token. It tells how far a
failed alternative came, and after which token something else was expected.
-/

namespace Waymark

structure Mark where
  token : String := ""
  tokenIndex : Nat := 0
  parserIndex : Nat := 0
  deriving DecidableEq, Inhabited

namespace Mark

def ofToken (token : String) (start stop : Nat) : Mark :=
  ⟨token, stop, start⟩

def isEmpty (m : Mark) : Bool :=
  m.token.isEmpty && m.tokenIndex == 0

def detail (m : Mark) : String :=
  "Mark \x7b token: " ++ Text.quote m.token ++ ", token_index: " ++ toString m.tokenIndex ++
    ", parser_index: " ++ toString m.parserIndex ++ " \x7d"

end Mark

end Waymark
