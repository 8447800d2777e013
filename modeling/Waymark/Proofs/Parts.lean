import Mathlib.Logic.Relation
import Waymark.Parser

/-!
This module contains what a parser is made of: the parsers that it may come to run, those that its
binders make and those behind the names of rules included. A property of all of them is
`Parser.Throughout`.
-/

namespace Waymark

inductive Body.Binds (sees : State → Prop) : Body → Parser → Prop where
  | bind {p : Parser} {next : State → Suggestions → Body} : Binds sees (.bind p next) p
  | bindNext {p q : Parser} {next : State → Suggestions → Body} {s : State} {table : Suggestions}
      (hs : sees s) (h : Binds sees (next s table) q) : Binds sees (.bind p next) q
  | failNext {message : String} {q : Parser} {next : State → Suggestions → Body} {s : State}
      {table : Suggestions} (hs : sees s) (h : Binds sees (next s table) q) :
      Binds sees (.fail message next) q

theorem Body.Binds.mono {sees sees' : State → Prop} (hsees : ∀ s, sees s → sees' s) {body : Body}
    {p : Parser} (h : body.Binds sees p) : body.Binds sees' p := by
  induction h with
  | bind => exact .bind
  | bindNext hs _ ih => exact .bindNext (hsees _ hs) ih
  | failNext hs _ ih => exact .failNext (hsees _ hs) ih

namespace Parser

def inner : Parser → List Parser
  | .sequence ps | .choice ps => ps
  | .sequenceSepBy separator ps => separator :: ps
  | .many body | .many1 body | .optional body | .map body _ | .mapError body _ | .deferred body =>
    [body]
  | .sepBy separator body | .sepBy1 separator body => [separator, body]
  | .between opening content closing => [opening, content, closing]
  | .keepLeft left right | .keepRight left right => [left, right]
  | .chain first _ => [first]
  | _ => []

def IsPrimitive : Parser → Prop
  | .literal _ | .pattern _ | .eatUntil _ | .anyChar | .endOfInput | .peek | .getState | .setState _
  | .succeed _ | .fail _ => True
  | _ => False

def IsPlain : Parser → Prop
  | .setState _ | .chain _ _ | .contextual _ | .transform _ => False
  | _ => True

def BringsNothing : Parser → Prop
  | .setState _ | .transform _ => False
  | _ => True

/--
The parsers that a parser may run: those that it is built from, the one that a name stands for, and
those that binders choose. Binders are shown states that they `see` and that have not failed.
-/
inductive Part (rules : Rules) (sees : State → Prop) : Parser → Parser → Prop where
  | inner {p q : Parser} (h : q ∈ p.inner) : Part rules sees p q
  | rule {name : String} : Part rules sees (.rule name) (rules.resolve name)
  | next {first : Parser} {next : State → Suggestions → Parser} {s : State} {table : Suggestions}
      (hs : sees s) (hlive : s.isError = false) : Part rules sees (.chain first next) (next s table)
  | contextual {body : State → Suggestions → Body} {s : State} {table : Suggestions} {p : Parser}
      (hs : sees s) (hlive : s.isError = false) (h : (body s table).Binds sees p) :
      Part rules sees (.contextual body) p

/--
Whether all that a parser is made of, itself included, has a property.
-/
def Throughout (rules : Rules) (sees : State → Prop) (node : Parser → Prop) (p : Parser) : Prop :=
  ∀ q, Relation.ReflTransGen (Part rules sees) p q → node q

variable {rules : Rules} {sees sees' : State → Prop} {node node' : Parser → Prop} {p q : Parser}

theorem Throughout.self (h : Throughout rules sees node p) : node p := by
  apply h
  exact Relation.ReflTransGen.refl

theorem Throughout.part (h : Throughout rules sees node p) (hq : Part rules sees p q) :
    Throughout rules sees node q := by
  intro r hr
  apply h
  exact Relation.ReflTransGen.head hq hr

theorem Throughout.inner (h : Throughout rules sees node p) (hq : q ∈ p.inner) :
    Throughout rules sees node q :=
  h.part (.inner hq)

theorem Throughout.intro (hnode : node p)
    (hparts : ∀ q, Part rules sees p q → Throughout rules sees node q) :
    Throughout rules sees node p := by
  intro q hq
  cases hq.cases_head with
  | inl h =>
    rw [← h]
    exact hnode
  | inr h =>
    obtain ⟨r, hr, hq⟩ := h
    exact hparts r hr q hq

theorem Throughout.of_inner (hnode : node p) (hplain : p.IsPlain) (hrule : ∀ name, p ≠ .rule name)
    (hparts : ∀ q ∈ p.inner, Throughout rules sees node q) : Throughout rules sees node p := by
  apply Throughout.intro hnode
  intro q hq
  cases hq with
  | inner hq => exact hparts q hq
  | rule => exact absurd rfl (hrule _)
  | next _ _ => exact hplain.elim
  | contextual _ _ _ => exact hplain.elim

theorem IsPrimitive.inner_eq (hp : p.IsPrimitive) : p.inner = [] := by
  cases p
  all_goals first
    | rfl
    | exact hp.elim

theorem Throughout.of_isPrimitive (hp : p.IsPrimitive) (hnode : node p) :
    Throughout rules sees node p := by
  apply Throughout.intro hnode
  intro q hq
  cases hq with
  | inner hq =>
    rw [hp.inner_eq] at hq
    cases hq
  | rule => exact hp.elim
  | next _ _ => exact hp.elim
  | contextual _ _ _ => exact hp.elim

theorem Part.mono (hsees : ∀ s, sees s → sees' s) (h : Part rules sees p q) :
    Part rules sees' p q := by
  cases h with
  | inner h => exact .inner h
  | rule => exact .rule
  | next hs hlive => exact .next (hsees _ hs) hlive
  | contextual hs hlive h => exact .contextual (hsees _ hs) hlive (h.mono hsees)

theorem Throughout.mono (h : Throughout rules sees node p) (hsees : ∀ s, sees' s → sees s)
    (hnode : ∀ q, node q → node' q) : Throughout rules sees' node' p := by
  intro q hq
  apply hnode
  apply h
  exact hq.lift id fun _ _ hpart => hpart.mono hsees

theorem Throughout.of_list (ps : List Parser) (hp : p ∈ ps) (hplain : ∀ q ∈ ps, q.IsPlain)
    (hinner : ∀ q ∈ ps, ∀ r ∈ q.inner, r ∈ ps)
    (hrule : ∀ name, .rule name ∈ ps → rules.resolve name ∈ ps) (hnode : ∀ q ∈ ps, node q) :
    Throughout rules sees node p := by
  intro q hq
  apply hnode
  induction hq with
  | refl => exact hp
  | tail _ hpart ih =>
    cases hpart with
    | inner h => exact hinner _ ih _ h
    | rule => exact hrule _ ih
    | next _ _ => exact (hplain _ ih).elim
    | contextual _ _ _ => exact (hplain _ ih).elim

theorem sizeOf_lt_of_mem_inner (h : q ∈ p.inner) : sizeOf q < sizeOf p := by
  cases p
  all_goals
    simp only [inner, List.mem_cons, List.not_mem_nil, or_false] at h
  case sequence ps =>
    have := List.sizeOf_lt_of_mem h
    rw [sequence.sizeOf_spec]
    omega
  case choice ps =>
    have := List.sizeOf_lt_of_mem h
    rw [choice.sizeOf_spec]
    omega
  case sequenceSepBy separator ps =>
    rw [sequenceSepBy.sizeOf_spec]
    cases h with
    | inl h =>
      rw [h]
      omega
    | inr h =>
      have := List.sizeOf_lt_of_mem h
      omega
  all_goals
    rcases h with rfl | rfl | rfl
    all_goals
      simp +arith

theorem inner_induction {motive : Parser → Prop}
    (step : ∀ p, (∀ q ∈ p.inner, motive q) → motive p) (p : Parser) : motive p := by
  apply step
  intro q hq
  have := sizeOf_lt_of_mem_inner hq
  exact inner_induction step q
termination_by sizeOf p

end Parser
end Waymark
