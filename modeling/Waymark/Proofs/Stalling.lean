import Mathlib.Data.List.Chain
import Waymark.Proofs.Halting
import Waymark.Proofs.Peg.Refinement
import Waymark.Proofs.Separation

/-!
This module contains when repetitions come to an end. A parser that succeeds without moving the
offset does so again and again, since nothing else that changes has an influence on it, so
`Parser.repetition_ends_iff` says that a repetition ends just if a failure comes first.
-/

namespace Waymark
namespace Parser

open Effect

/--
Whether iterating a parser comes to a failure, and all successes before it move the offset.
-/
def FailsBeforeStalling (rules : Rules) (p : Parser) (s : State) (j : Journal) : Prop :=
  ∃ reached last attempt l, Exhausts rules p s j reached last attempt l ∧
    (s :: reached).IsChain (·.index ≠ ·.index)

def StallsBeforeFailing (rules : Rules) (p : Parser) (s : State) (j : Journal) : Prop :=
  ∃ reached last k t l, Iterates rules p s j reached last k ∧
    (s :: reached).IsChain (·.index ≠ ·.index) ∧
    Returns rules p last k t l ∧ t.isError = false ∧ t.index = last.index

variable {rules : Rules} {p q r : Parser} {s s' t t' u v last attempt : State}
  {j j' k k' l : Journal} {reached : List State}

theorem FailsBeforeStalling.next (h : Returns rules p s j t k) (hlive : t.isError = false)
    (hmoved : s.index ≠ t.index) (hrest : FailsBeforeStalling rules p t k) :
    FailsBeforeStalling rules p s j := by
  obtain ⟨reached, last, attempt, l, hexhausts, hchain⟩ := hrest
  refine ⟨t :: reached, last, attempt, l, hexhausts.next h hlive, ?_⟩
  exact List.isChain_cons_cons.mpr ⟨hmoved, hchain⟩

theorem StallsBeforeFailing.next (h : Returns rules p s j t k) (hlive : t.isError = false)
    (hmoved : s.index ≠ t.index) (hrest : StallsBeforeFailing rules p t k) :
    StallsBeforeFailing rules p s j := by
  obtain ⟨reached, last, k', u, l, hiterates, hchain, hstall⟩ := hrest
  refine ⟨t :: reached, last, k', u, l, .next h hlive hiterates, ?_, hstall⟩
  exact List.isChain_cons_cons.mpr ⟨hmoved, hchain⟩

theorem Returns.exists_and_iff (h : Returns rules p s j t k) {post : State → Journal → Prop} :
    (∃ t k, Returns rules p s j t k ∧ post t k) ↔ post t k := by
  constructor
  . rintro ⟨t', k', h', hpost⟩
    obtain ⟨rfl, rfl⟩ := h.unique h'
    exact hpost
  . intro hpost
    exact ⟨t, k, h, hpost⟩

theorem diverges_iff (hr : r.Throughout rules (fun _ => True) IsPlain) (hs : s.OnBoundary) :
    (∀ n, parse rules n r s j = .outOfFuel) ↔ ¬∃ t l, Returns rules r s j t l := by
  constructor
  . rintro hforever ⟨t, l, ht⟩
    exact ht.not_outOfFuel hforever
  . intro hnone n
    cases hn : parse rules n r s j with
    | done t l => exact absurd ⟨t, l, n, hn⟩ hnone
    | fault cause => exact absurd hn (parse_ne_fault_of_isPlain hr hs n j cause)
    | outOfFuel => rfl

section Plain

variable (hp : p.Throughout rules (fun _ => True) IsPlain)

include hp

theorem ready_of_returns (hs : s.Ready) (h : Returns rules p s j t k) (hlive : t.isError = false) :
    t.Ready :=
  ⟨hlive, (ahead_of_returns hp hs.onBoundary h).onBoundary⟩

theorem verdict_eq_of_rest_eq (hs : s.Ready) (hs' : s'.Ready) (hrest : s'.rest = s.rest)
    (h : Returns rules p s j t k) (h' : Returns rules p s' j' t' k') : t'.verdict = t.verdict := by
  have hderives := Peg.derives_iff.mpr (realizes_of_returns hp hs h).verdict
  have hderives' := Peg.derives_iff.mpr (realizes_of_returns hp hs' h').verdict
  rw [hrest] at hderives'
  exact hderives'.unique hderives

theorem stalls_again (hs : s.Ready) (h : Returns rules p s j t k) (hlive : t.isError = false)
    (hstay : t.index = s.index) (h' : Returns rules p t k u l) :
    u.isError = false ∧ u.index = t.index := by
  have ht := ready_of_returns hp hs h hlive
  have hahead := ahead_of_returns hp ht.onBoundary h'
  have hrest : t.rest = s.rest :=
    State.rest_congr (ahead_of_returns hp hs.onBoundary h).target_eq hstay
  have hverdict := verdict_eq_of_rest_eq hp hs ht hrest h h'
  rw [State.verdict_of_live hlive] at hverdict
  obtain ⟨hu, hrest'⟩ := State.verdict_eq_some_iff.mp hverdict
  have hdrop := ht.onBoundary.dropBytes
  rw [← hrest', ← hahead.target_eq] at hdrop
  exact ⟨hu, State.index_eq_of_dropBytes hahead.onBoundary.dropBytes hdrop⟩

theorem not_exhausts_of_stall (hs : s.Ready) (h : Returns rules p s j t k)
    (hlive : t.isError = false) (hstay : t.index = s.index) :
    ¬Exhausts rules p s j reached last attempt l := by
  intro hexhausts
  -- On the states that are reached: the first is the one of the success, which is then repeated.
  induction reached generalizing s j t k with
  | nil =>
    obtain ⟨-, hattempt, herror⟩ := exhausts_nil_iff.mp hexhausts
    obtain ⟨rfl, -⟩ := h.unique hattempt
    rw [hlive] at herror
    contradiction
  | cons t' reached ih =>
    obtain ⟨k', h', -, hrest⟩ := exhausts_cons_iff.mp hexhausts
    obtain ⟨rfl, rfl⟩ := h.unique h'
    have ht := ready_of_returns hp hs h hlive
    obtain ⟨u, m, hu⟩ : ∃ u m, Returns rules p t k u m := by
      cases reached with
      | nil => exact ⟨_, _, (exhausts_nil_iff.mp hrest).2.1⟩
      | cons u reached =>
        obtain ⟨m, hu, -⟩ := exhausts_cons_iff.mp hrest
        exact ⟨u, m, hu⟩
    obtain ⟨hu_live, hu_index⟩ := stalls_again hp hs h hlive hstay hu
    exact ih ht hu hu_live hu_index hrest

theorem Exhausts.isChain (hs : s.Ready) (h : Exhausts rules p s j reached last attempt l) :
    (s :: reached).IsChain (·.index ≠ ·.index) := by
  induction reached generalizing s j with
  | nil => exact List.isChain_singleton s
  | cons t reached ih =>
    obtain ⟨k, ht, hlive, hrest⟩ := exhausts_cons_iff.mp h
    apply List.isChain_cons_cons.mpr
    constructor
    . intro hstay
      exact not_exhausts_of_stall hp hs ht hlive hstay.symm h
    . exact ih (ready_of_returns hp hs ht hlive) hrest

theorem exhausts_iff_fails (hs : s.Ready) :
    (∃ reached last attempt l, Exhausts rules p s j reached last attempt l) ↔
      FailsBeforeStalling rules p s j := by
  constructor
  . rintro ⟨reached, last, attempt, l, h⟩
    exact ⟨reached, last, attempt, l, h, h.isChain hp hs⟩
  . rintro ⟨reached, last, attempt, l, h, -⟩
    exact ⟨reached, last, attempt, l, h⟩

theorem Exhausts.length_le (hs : s.Ready) (h : Exhausts rules p s j reached last attempt l) :
    reached.length ≤ s.size - s.index := by
  induction reached generalizing s j with
  | nil => exact Nat.zero_le _
  | cons t reached ih =>
    obtain ⟨k, ht, hlive, hrest⟩ := exhausts_cons_iff.mp h
    have hahead := ahead_of_returns hp hs.onBoundary ht
    have hmoved := (List.isChain_cons_cons.mp (h.isChain hp hs)).1
    have hle := hahead.index_le
    have hleft := hahead.left_lt (by omega)
    have hlength := ih (ready_of_returns hp hs ht hlive) hrest
    rw [List.length_cons]
    omega

theorem StallsBeforeFailing.not_fails (hs : s.Ready) (h : StallsBeforeFailing rules p s j) :
    ¬FailsBeforeStalling rules p s j := by
  obtain ⟨reached, last, k, t, l, hiterates, -, ht, hlive, hstay⟩ := h
  rintro ⟨reached', last', attempt, l', hexhausts, -⟩
  induction hiterates generalizing reached' with
  | refl => exact not_exhausts_of_stall hp hs ht hlive hstay hexhausts
  | next h hlive' _ ih =>
    have hready := ready_of_returns hp hs h hlive'
    cases reached' with
    | nil =>
      obtain ⟨-, hattempt, herror⟩ := exhausts_nil_iff.mp hexhausts
      obtain ⟨rfl, -⟩ := h.unique hattempt
      rw [hlive'] at herror
      contradiction
    | cons t' reached' =>
      obtain ⟨k', h', -, hrest⟩ := exhausts_cons_iff.mp hexhausts
      obtain ⟨rfl, rfl⟩ := h.unique h'
      exact ih hready ht hstay reached' hrest

theorem fails_or_stalls {s : State} {j : Journal}
    (hends : ∀ t : State, t.target = s.target → t.Ready → ∀ j, ∃ u k, Returns rules p t j u k)
    (hs : s.Ready) :
    FailsBeforeStalling rules p s j ∨ StallsBeforeFailing rules p s j := by
  obtain ⟨t, k, ht⟩ := hends s rfl hs j
  cases herror : t.isError with
  | true =>
    left
    exact ⟨[], s, t, k, exhausts_nil_iff.mpr ⟨rfl, ht, herror⟩, List.isChain_singleton s⟩
  | false =>
    have hahead := ahead_of_returns hp hs.onBoundary ht
    by_cases hstay : t.index = s.index
    . right
      exact ⟨[], s, j, t, k, .refl, List.isChain_singleton s, ht, herror, hstay⟩
    . have hleft : t.size - t.index < s.size - s.index := by
        apply hahead.left_lt
        have := hahead.index_le
        omega
      have hmoved : s.index ≠ t.index := Ne.symm hstay
      have hready := ready_of_returns hp hs ht herror
      have hends' (u : State) (hu : u.target = t.target) :
          u.Ready → ∀ j, ∃ v k, Returns rules p u j v k :=
        hends u (hu.trans hahead.target_eq)
      rcases fails_or_stalls hends' hready with h | h
      . left
        exact h.next ht herror hmoved
      . right
        exact h.next ht herror hmoved
termination_by s.size - s.index

theorem stalls_iff_not_fails
    (hends : ∀ t : State, t.target = s.target → t.Ready → ∀ j, ∃ u k, Returns rules p t j u k)
    (hs : s.Ready) :
    StallsBeforeFailing rules p s j ↔ ¬FailsBeforeStalling rules p s j := by
  constructor
  . intro h
    exact h.not_fails hp hs
  . exact (fails_or_stalls hp hends hs).resolve_left

end Plain

theorem requireSome_result {message : String} {values : List Value}
    (h : (requireSome message (u, values)).isError = false) :
    (requireSome message (u, values)).result = .seq values := by
  cases values with
  | nil => exact absurd h Bool.true_eq_false.mp
  | cons value values => rfl

theorem returns_repetition_iff (hs : s.isError = false) (hr : r = .many p ∨ r = .many1 p) :
    (∃ t l, Returns rules r s j t l) ↔
      ∃ reached last attempt l, Exhausts rules p s j reached last attempt l := by
  rcases hr with rfl | rfl
  . constructor
    . rintro ⟨t, l, ht⟩
      obtain ⟨reached, last, attempt, h, -⟩ := (many_returns_iff hs).mp ht
      exact ⟨reached, last, attempt, l, h⟩
    . rintro ⟨reached, last, attempt, l, h⟩
      exact ⟨_, l, (many_returns_iff hs).mpr ⟨reached, last, attempt, h, rfl⟩⟩
  . constructor
    . rintro ⟨t, l, ht⟩
      obtain ⟨reached, last, attempt, h, -⟩ := (many1_returns_iff hs).mp ht
      exact ⟨reached, last, attempt, l, h⟩
    . rintro ⟨reached, last, attempt, l, h⟩
      exact ⟨_, l, (many1_returns_iff hs).mpr ⟨reached, last, attempt, h, rfl⟩⟩

theorem result_of_repetition (hs : s.isError = false) (hr : r = .many p ∨ r = .many1 p)
    (h : Returns rules r s j t l) (hlive : t.isError = false) :
    ∃ reached last attempt, Exhausts rules p s j reached last attempt l ∧
      t.result = .seq (reached.map (·.result)) := by
  rcases hr with rfl | rfl
  . obtain ⟨reached, last, attempt, hexhausts, rfl⟩ := (many_returns_iff hs).mp h
    exact ⟨reached, last, attempt, hexhausts, rfl⟩
  . obtain ⟨reached, last, attempt, hexhausts, rfl⟩ := (many1_returns_iff hs).mp h
    exact ⟨reached, last, attempt, hexhausts, requireSome_result hlive⟩

theorem returns_separated_iff (hs : s.isError = false) (hv : Returns rules p s j v k)
    (hlive : v.isError = false) (hr : r = .sepBy q p ∨ r = .sepBy1 q p) :
    Returns rules r s j t l ↔
      ∃ reached last attempt, Exhausts rules (.keepRight q p) v k reached last attempt l ∧
        t = (last.withDiagnosticsOf attempt).withResult
          (.seq (v.result :: reached.map (·.result))) := by
  rw [← eval_eq_done_iff]
  rcases hr with rfl | rfl
  . rw [eval_sepBy_of_value hs hv hlive]
    exact collectAll_map_eq_done_iff
  . rw [eval_sepBy1_of_value hs hv hlive, eval_sepBy_of_value hs hv hlive]
    exact collectAll_map_eq_done_iff

theorem returns_separated_of_error (hs : s.isError = false) (hv : Returns rules p s j v k)
    (herror : v.isError = true) (hr : r = .sepBy q p ∨ r = .sepBy1 q p) :
    ∃ t, Returns rules r s j t k ∧ (t.isError = false → t.result = .seq []) := by
  rcases hr with rfl | rfl
  . exact ⟨_, returns_sepBy_of_error hs hv herror, fun _ => rfl⟩
  . exact ⟨_, returns_sepBy1_of_error hs hv herror, fun h => absurd h Bool.true_eq_false.mp⟩

theorem throughout_repetition (hp : p.Throughout rules (fun _ => True) IsPlain)
    (hr : r = .many p ∨ r = .many1 p) : r.Throughout rules (fun _ => True) IsPlain := by
  rcases hr with rfl | rfl
  all_goals
    refine Throughout.of_inner trivial trivial nofun ?_
    intro p' hp'
    obtain rfl := List.mem_singleton.mp hp'
    exact hp

theorem round_returns (hq : q.Throughout rules (fun _ => True) IsPlain)
    (hends : ∀ t : State, t.target = s.target → t.Ready → ∀ j,
      (∃ u k, Returns rules p t j u k) ∧ ∃ u k, Returns rules q t j u k)
    (htarget : t.target = s.target) (ht : t.Ready) (j : Journal) :
    ∃ u k, Returns rules (.keepRight q p) t j u k := by
  obtain ⟨u, k, hu⟩ := (hends t htarget ht j).2
  cases herror : u.isError with
  | true =>
    refine ⟨u, k, eval_eq_done_iff.mp ?_⟩
    rw [eval_keepRight, bind_apply, eval_eq_done_iff.mpr hu]
    dsimp only
    rw [State.unlessError_of_isError herror]
    rfl
  | false =>
    have hahead := ahead_of_returns hq ht.onBoundary hu
    have hready := ready_of_returns hq ht hu herror
    obtain ⟨v, l, hv⟩ := (hends u (hahead.target_eq.trans htarget) hready k).1
    refine ⟨v, l, eval_eq_done_iff.mp ?_⟩
    rw [eval_keepRight, bind_apply, eval_eq_done_iff.mpr hu]
    dsimp only
    rw [State.unlessError_of_live herror]
    exact eval_eq_done_iff.mpr hv

section Separated

variable (hp : p.Throughout rules (fun _ => True) IsPlain)
  (hq : q.Throughout rules (fun _ => True) IsPlain)

include hp hq

theorem throughout_separated (hr : r = .sepBy q p ∨ r = .sepBy1 q p ∨ r = .keepRight q p) :
    r.Throughout rules (fun _ => True) IsPlain := by
  rcases hr with rfl | rfl | rfl
  all_goals
    refine Throughout.of_inner trivial trivial (by simp) ?_
    simp only [inner, List.forall_mem_cons]
    exact ⟨hq, hp, List.forall_mem_nil _⟩

theorem separated_of_value (hs : s.Ready) (hv : Returns rules p s j v k)
    (hlive : v.isError = false) (hr : r = .sepBy q p ∨ r = .sepBy1 q p) :
    ((∃ t l, Returns rules r s j t l) ↔ FailsBeforeStalling rules (.keepRight q p) v k) ∧
      ∀ t l, Returns rules r s j t l →
        ∃ items, t.result = .seq items ∧ items.length ≤ s.size - s.index + 1 := by
  have hround : (keepRight q p).Throughout rules (fun _ => True) IsPlain :=
    throughout_separated hp hq (.inr (.inr rfl))
  have hready := ready_of_returns hp hs hv hlive
  have hreturns {t : State} {l : Journal} :=
    returns_separated_iff (t := t) (l := l) hs.live hv hlive hr
  refine ⟨?_, ?_⟩
  . rw [← exhausts_iff_fails hround hready]
    constructor
    . rintro ⟨t, l, ht⟩
      obtain ⟨reached, last, attempt, h, -⟩ := hreturns.mp ht
      exact ⟨reached, last, attempt, l, h⟩
    . rintro ⟨reached, last, attempt, l, h⟩
      exact ⟨_, l, hreturns.mpr ⟨reached, last, attempt, h, rfl⟩⟩
  . intro t l ht
    obtain ⟨reached, last, attempt, h, rfl⟩ := hreturns.mp ht
    refine ⟨_, rfl, ?_⟩
    have hlength := h.length_le hround hready
    have hahead := ahead_of_returns hp hs.onBoundary hv
    have hsize : v.size = s.size := by
      unfold State.size
      rw [hahead.target_eq]
    have hle := hahead.index_le
    rw [List.length_cons, List.length_map]
    omega

/--
In a text from everywhere in which the parser and the separator return, a repetition returns just if
the iteration of its rounds comes to a failure before it comes to a success that leaves the offset
where it is; else it never ends. It has not collected more results than there are bytes left, with
separators one more.
-/
theorem repetition_ends_iff (hs : s.Ready)
    (hends : ∀ t : State, t.target = s.target → t.Ready → ∀ j,
      (∃ u k, Returns rules p t j u k) ∧ ∃ u k, Returns rules q t j u k) (j : Journal) :
    (∀ r, r = .many p ∨ r = .many1 p →
      ((∃ t l, Returns rules r s j t l) ↔ FailsBeforeStalling rules p s j) ∧
      ((∀ n, parse rules n r s j = .outOfFuel) ↔ StallsBeforeFailing rules p s j) ∧
      ∀ t l, Returns rules r s j t l → t.isError = false →
        ∃ items, t.result = .seq items ∧ items.length ≤ s.size - s.index) ∧
    ∀ r, r = .sepBy q p ∨ r = .sepBy1 q p →
      ((∃ t l, Returns rules r s j t l) ↔
        ∃ v k, Returns rules p s j v k ∧
          (v.isError = true ∨ FailsBeforeStalling rules (.keepRight q p) v k)) ∧
      ((∀ n, parse rules n r s j = .outOfFuel) ↔
        ∃ v k, Returns rules p s j v k ∧ v.isError = false ∧
          StallsBeforeFailing rules (.keepRight q p) v k) ∧
      ∀ t l, Returns rules r s j t l → t.isError = false →
        ∃ items, t.result = .seq items ∧ items.length ≤ s.size - s.index + 1 := by
  constructor
  . intro r hr
    have hreturns : (∃ t l, Returns rules r s j t l) ↔ FailsBeforeStalling rules p s j := by
      rw [← exhausts_iff_fails hp hs]
      exact returns_repetition_iff hs.live hr
    refine ⟨hreturns, ?_, ?_⟩
    . rw [diverges_iff (throughout_repetition hp hr) hs.onBoundary, hreturns,
        stalls_iff_not_fails hp (fun t htarget ht j => (hends t htarget ht j).1) hs]
    . intro t l ht hlive
      obtain ⟨reached, last, attempt, h, hresult⟩ := result_of_repetition hs.live hr ht hlive
      refine ⟨_, hresult, ?_⟩
      rw [List.length_map]
      exact h.length_le hp hs
  . intro r hr
    obtain ⟨v, k, hv⟩ := (hends s rfl hs j).1
    simp only [hv.exists_and_iff]
    rw [diverges_iff (throughout_separated hp hq (hr.imp_right .inl)) hs.onBoundary]
    cases herror : v.isError with
    | true =>
      obtain ⟨t, ht, hresult⟩ := returns_separated_of_error hs.live hv herror hr
      have hreturns : ∃ t l, Returns rules r s j t l := ⟨t, k, ht⟩
      refine ⟨by simp [hreturns], by simp [hreturns], ?_⟩
      intro t' l ht' hlive
      obtain ⟨rfl, rfl⟩ := ht.unique ht'
      exact ⟨[], hresult hlive, Nat.zero_le _⟩
    | false =>
      have hround : (keepRight q p).Throughout rules (fun _ => True) IsPlain :=
        throughout_separated hp hq (.inr (.inr rfl))
      have htarget := (ahead_of_returns hp hs.onBoundary hv).target_eq
      have hrounds (t : State) (ht : t.target = v.target) (hready : t.Ready) (j : Journal) :=
        round_returns hq hends (ht.trans htarget) hready j
      obtain ⟨hreturns, hbound⟩ := separated_of_value hp hq hs hv herror hr
      rw [hreturns, stalls_iff_not_fails hround hrounds (ready_of_returns hp hs hv herror)]
      refine ⟨by simp, by simp, ?_⟩
      intro t l ht _
      exact hbound t l ht

end Separated

theorem repetition_ends_iff_blanks :
    let p : Parser := .optionalWhitespace
    let q : Parser := .literal ","
    let s : State := { target := " , x", registry := 0 }
    p.Throughout [] (fun _ => True) IsPlain ∧ q.Throughout [] (fun _ => True) IsPlain ∧ s.Ready ∧
      (∀ t : State, t.target = s.target → t.Ready → ∀ j,
        (∃ u k, Returns [] p t j u k) ∧ ∃ u k, Returns [] q t j u k) ∧
      (∀ n, parse [] n (.many p) s {} = .outOfFuel) ∧
      ∃ t l items, Returns [] (.sepBy q p) s {} t l ∧ t.result = .seq items ∧ items.length = 2 ∧
        items.length ≤ s.size - s.index + 1 := by
  intro p q s
  have hp : p.Throughout [] (fun _ => True) IsPlain := Throughout.of_isPrimitive trivial trivial
  have hq : q.Throughout [] (fun _ => True) IsPlain := Throughout.of_isPrimitive trivial trivial
  have hs : s.Ready := ⟨rfl, by decide⟩
  have hends (t : State) (_ : t.target = s.target) (ht : t.Ready) (j : Journal) :
      (∃ u k, Returns [] p t j u k) ∧ ∃ u k, Returns [] q t j u k := by
    have hblanks : Halts (eval [] p t) := primitive_halts trivial ht.onBoundary
    have hcomma : Halts (eval [] q t) := primitive_halts trivial ht.onBoundary
    obtain ⟨u, k, hu, -⟩ := hblanks.done j
    obtain ⟨v, l, hv, -⟩ := hcomma.done j
    exact ⟨⟨u, k, eval_eq_done_iff.mp hu⟩, v, l, eval_eq_done_iff.mp hv⟩
  obtain ⟨hrepetition, hseparated⟩ := repetition_ends_iff hp hq hs hends {}
  refine ⟨hp, hq, hs, hends, ?_, ?_⟩
  . rw [(hrepetition (.many p) (.inl rfl)).2.1]
    let first : State := { s with index := 1, result := .token " " }
    have hfirst : (parse [] 2 p s {}).passes (fun t k => t == first && k == {}) = true := by
      decide +kernel
    have hstall : (parse [] 2 p first {}).passes (fun t _ =>
        !t.isError && t.index == 1) = true := by
      decide +kernel
    obtain ⟨_, _, ht, htest⟩ := returns_of_passes 2 hfirst
    simp only [Bool.and_eq_true, beq_iff_eq] at htest
    obtain ⟨rfl, rfl⟩ := htest
    obtain ⟨u, k, hu, hlive⟩ := returns_of_passes 2 hstall
    simp only [Bool.and_eq_true, Bool.not_eq_true', beq_iff_eq] at hlive
    exact ⟨[first], first, {}, u, k, .next ht rfl .refl, by simp [first, s], hu, hlive⟩
  . have hlist : (parse [] 9 (.sepBy q p) s {}).passes (fun t _ =>
        !t.isError && t.result.items?.map List.length == some 2) = true := by
      decide +kernel
    obtain ⟨t, l, ht, htest⟩ := returns_of_passes 9 hlist
    simp only [Bool.and_eq_true, Bool.not_eq_true', beq_iff_eq] at htest
    obtain ⟨items, hitems, hle⟩ := (hseparated (.sepBy q p) (.inl rfl)).2.2 t l ht htest.1
    refine ⟨t, l, items, ht, hitems, ?_, hle⟩
    rw [hitems] at htest
    exact Option.some.inj htest.2

end Parser
end Waymark
