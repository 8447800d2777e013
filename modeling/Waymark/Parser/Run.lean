import Waymark.Parser.Primitive

/-!
This module contains what parsers do. `Parser.step` says what one parser does in terms of the run of
its parts, `Parser.parse` ties the knot with a bound on the depth of runs, and `Parser.parseText`
parses a text from its start.

Parsers either pass an errored state on, or leave that to the first part they run.
-/

namespace Waymark
namespace Parser

variable (run : Parser → State → Effect State)

def runAll : List Parser → State → Effect (State × List Value)
  | [], s => pure (s, [])
  | p :: ps, s => do
    let t ← run p s
    if t.isError then
      pure (t, [])
    else
      let (last, values) ← runAll ps t
      pure (last, t.result :: values)

def runAllAfter (separator : Parser) : List Parser → State → Effect (State × List Value)
  | [], s => pure (s, [])
  | p :: ps, s => do
    let between ← run separator s
    if between.isError then
      pure (between, [])
    else
      let t ← run p between
      if t.isError then
        pure (t, [])
      else
        let (last, values) ← runAllAfter separator ps t
        pure (last, t.result :: values)

def runSeparated (separator : Parser) : List Parser → State → Effect (State × List Value)
  | [], s => pure (s, [])
  | p :: ps, s => do
    let t ← run p s
    if t.isError then
      pure (t, [])
    else
      let (last, values) ← runAllAfter run separator ps t
      pure (last, t.result :: values)

def further : Option State → State → State
  | none, t => t
  | some best, t => if best.mark.tokenIndex < t.mark.tokenIndex then t else best

def firstSuccess (s : State) : List Parser → Option State → Effect (Except (Option State) State)
  | [], best => pure (.error best)
  | p :: ps, best => do
    let t ← run p s
    if t.isError then
      firstSuccess s ps (some (further best t))
    else
      pure (.ok t)

def noAlternative (s : State) (best : Option State) : State :=
  let told := match best with
    | none => s
    | some best => s.withDiagnosticsOf best
  told.fail s!"choice: unable to match with any parser at index {s.index}"

def collect (p : Parser) : Nat → State → Effect (State × List Value)
  | 0, _ => Effect.exhausted
  | fuel + 1, s => do
    let t ← run p s
    if t.isError then
      pure (s.withDiagnosticsOf t, [])
    else
      let (last, values) ← collect p fuel t
      pure (last, t.result :: values)

def collectSeparated (separator p : Parser) :
    Nat → (last s : State) → Effect (State × List Value)
  | 0, _, _ => Effect.exhausted
  | fuel + 1, last, s => do
    let t ← run p s
    if t.isError then
      pure (last.withDiagnosticsOf t, [])
    else
      let between ← run separator t
      if between.isError then
        pure (t.withDiagnosticsOf between, [t.result])
      else
        let (last, values) ← collectSeparated separator p fuel t between
        pure (last, t.result :: values)

def follow : Body → State → Effect State
  | .finish value, s => pure (if s.isError then s else s.withResult value)
  | .halt, s => pure s
  | .bind p next, s => do
    let t ← run p s
    let table ← t.suggestions
    follow (next t table) t
  | .fail message next, s => do
    let t := s.fail message
    let table ← t.suggestions
    follow (next t table) t

def requireSome (message : String) : State × List Value → State
  | (t, []) => t.fail message
  | (t, values) => t.withResult (.seq values)

/--
What a parser does with a state, where `run` runs the parsers it is made of and loops take at most
`fuel` rounds.
-/
def step (rules : Rules) (fuel : Nat) (p : Parser) (s : State) : Effect State :=
  match p with
  | .literal text => s.unlessError (runLiteral text s)
  | .pattern p => s.unlessError (runPattern p s)
  | .eatUntil terminal => s.unlessError (runEatUntil terminal s)
  | .anyChar => s.unlessError (runAnyChar s)
  | .endOfInput => s.unlessError (runEndOfInput s)
  | .peek => s.unlessError (runPeek s)
  | .getState => pure s
  | .setState saved => pure (saved.withRegistryOf s)
  | .succeed value => s.unlessError (pure (s.withResult value))
  | .fail message => s.unlessError (pure (s.fail message))
  | .sequence ps => s.unlessError do
    let (t, values) ← runAll run ps s
    t.unlessError (pure (t.withResult (.seq values)))
  | .sequenceSepBy separator ps => s.unlessError do
    let (t, values) ← runSeparated run separator ps s
    t.unlessError (pure (t.withResult (.seq values)))
  | .choice ps => s.unlessError do
    match ← firstSuccess run s ps none with
    | .ok t => pure t
    | .error best =>
      Effect.update (·.log (.noAlternative s.index ps.length))
      pure (noAlternative s best)
  | .many body => s.unlessError do
    let (t, values) ← collect run body fuel s
    pure (t.withResult (.seq values))
  | .many1 body => s.unlessError do
    let collected ← collect run body fuel s
    pure (requireSome
      s!"many_one: unable to match the input parser at least once at index {s.index}" collected)
  | .sepBy separator body => s.unlessError do
    let (t, values) ← collectSeparated run separator body fuel s s
    pure (t.withResult (.seq values))
  | .sepBy1 separator body => s.unlessError do
    let collected ← collectSeparated run separator body fuel s s
    pure (requireSome
      s!"sep_by_one: unable to capture any results at index {s.index}" collected)
  | .between opening content closing => do
    let t ← run opening s
    t.unlessError do
      let u ← run content t
      u.unlessError do
        let v ← run closing u
        v.unlessError (pure (v.withResult u.result))
  | .optional body => s.unlessError do
    let t ← run body s
    pure (if t.isError then s.withResult .null else t)
  | .keepLeft left right => do
    let t ← run left s
    t.unlessError do
      let u ← run right t
      u.unlessError (pure (u.withResult t.result))
  | .keepRight left right => do
    let t ← run left s
    t.unlessError (run right t)
  | .map body f => do
    let t ← run body s
    t.unlessError (pure (t.mapResult f))
  | .chain first next => do
    let t ← run first s
    t.unlessError do
      let table ← t.suggestions
      run (next t table) t
  | .mapError body f => do
    let t ← run body s
    match t.error with
    | none => pure t
    | some message => pure (t.fail (f message t.index))
  | .deferred body => do
    Effect.update (·.countOpened)
    run body s
  | .rule name => do
    Effect.update (·.countOpened)
    run (rules.resolve name) s
  | .contextual body => s.unlessError do
    let table ← s.suggestions
    follow run (body s table) s
  | .transform f => f s

/--
What a parser does with a state. `fuel` bounds how deep runs of parsers may nest and how often a
loop may go round; an answer does not depend on it.
-/
def parse (rules : Rules) : Nat → Parser → State → Effect State
  | 0, _, _ => Effect.exhausted
  | fuel + 1, p, s => step (parse rules fuel) rules fuel p s

def parseText (rules : Rules) (fuel : Nat) (p : Parser) (target : String) : Effect State := do
  let s ← State.start target
  let t ← parse rules fuel p s
  Effect.update (·.log (.finished t.index t.isError s.size))
  pure t

end Parser
end Waymark
