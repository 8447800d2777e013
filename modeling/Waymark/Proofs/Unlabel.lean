import Waymark.Proofs.Absorption
import Waymark.Proofs.Evaluation
import Waymark.Proofs.Mapped

/-!
This module contains parsers without their error mappers. `Parser.step_unlabel` shows that leaving
them out goes through a step of any other parser, and `Parser.parseCore_ascends` that the mappers
around a parser may be applied after the run of what is in them.
-/

namespace Waymark

mutual

/--
The parser without the error mappers in it, those of the parsers that its binders make included.
-/
def Parser.unlabel : Parser → Parser
  | .mapError body _ => body.unlabel
  | .sequence ps => .sequence (Parser.unlabelAll ps)
  | .sequenceSepBy separator ps => .sequenceSepBy separator.unlabel (Parser.unlabelAll ps)
  | .choice ps => .choice (Parser.unlabelAll ps)
  | .many body => .many body.unlabel
  | .many1 body => .many1 body.unlabel
  | .sepBy separator body => .sepBy separator.unlabel body.unlabel
  | .sepBy1 separator body => .sepBy1 separator.unlabel body.unlabel
  | .between opening content closing => .between opening.unlabel content.unlabel closing.unlabel
  | .optional body => .optional body.unlabel
  | .keepLeft left right => .keepLeft left.unlabel right.unlabel
  | .keepRight left right => .keepRight left.unlabel right.unlabel
  | .map body f => .map body.unlabel f
  | .chain first next => .chain first.unlabel fun s table => (next s table).unlabel
  | .deferred body => .deferred body.unlabel
  | .contextual body => .contextual fun s table => (body s table).unlabel
  | p => p

def Parser.unlabelAll : List Parser → List Parser
  | [] => []
  | p :: ps => p.unlabel :: Parser.unlabelAll ps

def Body.unlabel : Body → Body
  | .finish value => .finish value
  | .halt => .halt
  | .bind p next => .bind p.unlabel fun s table => (next s table).unlabel
  | .fail message next => .fail message fun s table => (next s table).unlabel

end

def Rules.unlabel (rules : Rules) : Rules :=
  rules.map fun rule => (rule.1, rule.2.unlabel)

theorem Rules.resolve_unlabel (rules : Rules) (name : String) :
    rules.unlabel.resolve name = (rules.resolve name).unlabel :=
  rules.resolve_map (fun _ => rfl) name

namespace Parser

open Effect

def core : Parser → Parser
  | .mapError body _ => body.core
  | p => p

def labels : Parser → List (String → Nat → String)
  | .mapError body f => body.labels ++ [f]
  | _ => []

theorem unlabelAll_eq_map (ps : List Parser) : unlabelAll ps = ps.map unlabel := by
  induction ps with
  | nil => rfl
  | cons p ps ih => rw [unlabelAll, ih, List.map_cons]

theorem core_ne_mapError (p body : Parser) (f : String → Nat → String) :
    p.core ≠ .mapError body f := by
  fun_induction core p with
  | case1 _ _ ih => exact ih
  | case2 p hp => exact hp body f

theorem unlabel_core (p : Parser) : p.core.unlabel = p.unlabel := by
  fun_induction core p with
  | case1 body f ih =>
    rw [ih, unlabel]
  | case2 => rfl

variable {run : Parser → State → Effect State} {rules : Rules} {p : Parser}

theorem follow_unlabel : ∀ (body : Body) (s : State),
    follow run body.unlabel s = follow (fun q => run q.unlabel) body s
  | .finish _, _ => rfl
  | .halt, _ => rfl
  | .bind p next, s => by
    rw [Body.unlabel, follow, follow]
    apply bind_congr
    intro t
    apply bind_congr
    intro table
    exact follow_unlabel (next t table) t
  | .fail message next, s => by
    rw [Body.unlabel, follow, follow]
    apply bind_congr
    intro table
    exact follow_unlabel (next _ table) _

theorem step_unlabel (hp : ∀ body f, p ≠ .mapError body f) (n : Nat) (s : State) :
    step run rules.unlabel n p.unlabel s = step (fun q => run q.unlabel) rules n p s := by
  cases p with
  | sequence ps =>
    dsimp only [unlabel, step]
    rw [unlabelAll_eq_map, runAll_map]
  | sequenceSepBy separator ps =>
    dsimp only [unlabel, step]
    rw [unlabelAll_eq_map, runSeparated_map]
  | choice ps =>
    dsimp only [unlabel, step]
    rw [unlabelAll_eq_map, firstSuccess_map, List.length_map]
  | many body =>
    dsimp only [unlabel, step]
    rw [collect_map]
  | many1 body =>
    dsimp only [unlabel, step]
    rw [collect_map]
  | sepBy separator body =>
    dsimp only [unlabel, step]
    rw [collectSeparated_map]
  | sepBy1 separator body =>
    dsimp only [unlabel, step]
    rw [collectSeparated_map]
  | mapError body f => exact absurd rfl (hp body f)
  | rule name =>
    dsimp only [unlabel, step]
    rw [Rules.resolve_unlabel]
  | contextual body =>
    dsimp only [unlabel, step]
    simp only [follow_unlabel]
  | _ => rfl

def parseCore (rules : Rules) : Nat → Parser → State → Effect State
  | 0, _, _ => Effect.exhausted
  | fuel + 1, p, s => do
    let t ← step (parseCore rules fuel) rules fuel p.core s
    pure (p.labels.foldl State.relabel t)

theorem parseCore_mapError (n : Nat) (body : Parser) (f : String → Nat → String) (s : State) :
    parseCore rules n (.mapError body f) s =
      parseCore rules n body s >>= fun t => pure (t.relabel f) := by
  cases n with
  | zero => rfl
  | succ n => simp only [parseCore, core, labels, bind_assoc, pure_bind, List.foldl_append,
      List.foldl_cons, List.foldl_nil]

theorem parseCore_succ (hp : ∀ body f, p ≠ .mapError body f) (n : Nat) (s : State) :
    parseCore rules (n + 1) p s = step (parseCore rules n) rules n p s := by
  cases p with
  | mapError body f => exact absurd rfl (hp body f)
  | _ => exact bind_pure _

theorem parseCore_mono {n m : Nat} (hle : n ≤ m) (p : Parser) (s : State) :
    Below (parseCore rules n p s) (parseCore rules m p s) := by
  induction n generalizing m p s with
  | zero => apply Below.exhausted
  | succ n ih =>
    obtain ⟨m, rfl⟩ : ∃ k, m = k + 1 := ⟨m - 1, by omega⟩
    apply Below.bind
    . apply step_below
      . intro q t
        apply ih
        omega
      . omega
    . intro t
      apply Below.refl

theorem parse_below_parseCore (n : Nat) (p : Parser) (s : State) :
    Below (parse rules n p s) (parseCore rules n p s) := by
  induction n generalizing p s with
  | zero => apply Below.exhausted
  | succ n ih =>
    by_cases hp : ∃ body f, p = .mapError body f
    . obtain ⟨body, f, rfl⟩ := hp
      rw [parse, step_mapError, parseCore_mapError]
      apply Below.bind
      . exact (ih body s).trans (parseCore_mono (Nat.le_succ n) body s)
      . intro t
        apply Below.refl
    . rw [parseCore_succ fun body f h => hp ⟨body, f, h⟩]
      exact step_below ih rules (Nat.le_refl n) p s

theorem parseCore_below_eval (n : Nat) (p : Parser) (s : State) :
    Below (parseCore rules n p s) (eval rules p s) := by
  induction n generalizing p s with
  | zero => apply Below.exhausted
  | succ n ih =>
    induction p using inner_induction generalizing s with
    | step p ihp =>
      by_cases hp : ∃ body f, p = .mapError body f
      . obtain ⟨body, f, rfl⟩ := hp
        rw [parseCore_mapError, eval_eq fun m => step_mapError (eval rules) rules m body f s]
        apply Below.bind (ihp body List.mem_cons_self s)
        intro t
        apply Below.refl
      . rw [parseCore_succ fun body f h => hp ⟨body, f, h⟩]
        exact (step_below ih rules (Nat.le_refl n) p s).trans (step_eval_ascends.below n)

theorem parseCore_ascends (p : Parser) (s : State) :
    Ascends (fun n => parseCore rules n p s) (eval rules p s) :=
  parse_ascends.between (fun n => parse_below_parseCore n p s) fun n => parseCore_below_eval n p s

end Parser
end Waymark
