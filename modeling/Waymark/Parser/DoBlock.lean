import Waymark.Parser

/-!
This module contains blocks: parsers run in order, some of whose results get a name that later steps
and the value of the block can use.
-/

namespace Waymark

abbrev Bindings := List (String × Value)

namespace Bindings

def value (bindings : Bindings) (name : String) : Value :=
  (bindings.lookup name).getD .null

def bind (bindings : Bindings) (name : Option String) (value : Value) : Bindings :=
  match name with
  | none => bindings
  | some name => Ascending.put name value bindings

end Bindings

structure Step where
  name : Option String
  make : Bindings → Parser

namespace Step

def bind (name : String) (p : Parser) : Step :=
  ⟨some name, fun _ => p⟩

def bindWith (name : String) (make : Bindings → Parser) : Step :=
  ⟨some name, make⟩

def run (p : Parser) : Step :=
  ⟨none, fun _ => p⟩

end Step

namespace Parser

def ofSteps (finish : Bindings → Value) : List Step → Bindings → Parser
  | [], bindings => .succeed (finish bindings)
  | step :: steps, bindings =>
    .chain (step.make bindings) fun s _ =>
      ofSteps finish steps (bindings.bind step.name s.result)

def doBlock (steps : List Step) (finish : Bindings → Value) : Parser :=
  .chain .getState fun _ _ => ofSteps finish steps []

end Parser

end Waymark
