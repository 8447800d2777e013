import Waymark.Draft

/-!
This module contains drafted blocks: sequences of named steps, in the form whose parsers are made
before the parse where they do not depend on it, and in the form that may look at the state between
steps and carry on after a failure.
-/

namespace Waymark
namespace Draft

def bind (name : String) (p : Draft) : Except DraftError Step :=
  return .bind name (← p)

def run (p : Draft) : Except DraftError Step :=
  return .run (← p)

def bindWith (name on : String) (switch : Switch) : Except DraftError Step :=
  return .bindWith name fun bindings => switch.select (bindings.value on)

def doBlock (steps : List (Except DraftError Step)) (template : Template) : Draft :=
  return .doBlock (← steps.mapM id) fun bindings => template.fill bindings

end Draft

inductive ContextStep where
  | bind (name : String) (p : Parser)
  | run (p : Parser)
  | attempt (name : String) (p : Parser)
  | switch (name on : String) (s : Switch)
  | index (name : String)
  | fail (message : String)
  | note (message : String)
  | halt
  deriving Inhabited

namespace ContextStep

def body (template : Template) : List ContextStep → Bindings → State → Body
  | [], bindings, _ => .finish (template.fill bindings)
  | step :: steps, bindings, s =>
    let bindOrHalt (p : Parser) (name : Option String) : Body :=
      .bind p fun t _ =>
        if t.isError then .halt else body template steps (bindings.bind name t.result) t
    match step with
    | .bind name p => bindOrHalt p (some name)
    | .run p => bindOrHalt p none
    | .attempt name p =>
      .bind p fun t _ =>
        body template steps (bindings.bind (some name) (if t.isError then .null else t.result)) t
    | .switch name on cases => bindOrHalt (cases.select (bindings.value on)) (some name)
    | .index name =>
      body template steps (bindings.bind (some name) (.int (Int64.ofNat s.index))) s
    | .fail message => .fail message fun _ _ => .halt
    | .note message => .fail message fun t _ => body template steps bindings t
    | .halt => .halt

end ContextStep

def Draft.contextual (steps : List ContextStep) (template : Template) : Draft :=
  .ok (.contextual fun s _ => ContextStep.body template steps [] s)

end Waymark
