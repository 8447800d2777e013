import Mathlib.Data.List.TakeDrop
import Waymark.Regex.Reading

/-!
This module contains the reading of regular expressions in front of a closing parenthesis. What can
be read there as well as at the end of a text is read in the same way: no part of an expression that
is complete goes on with a closing parenthesis, though a comment may pass over it.
-/

namespace Waymark
namespace Regex

inductive Enclosed : List Char → List Char → Prop where
  | nil : Enclosed [] []
  | closed : Enclosed [] [')']
  | cons {c : Char} {cs cs' : List Char} (h : Enclosed cs cs') : Enclosed (c :: cs) (c :: cs')

def Alike {α : Type} (a b : α × List Char) : Prop :=
  a.1 = b.1 ∧ Enclosed a.2 b.2

def Agree {α β : Type} (related : α → β → Prop) (x : Except SyntaxError α)
    (y : Except SyntaxError β) : Prop :=
  -- The parenthesis may decide which error a text has, so nothing is said of errors.
  ∀ a b, x = .ok a → y = .ok b → related a b

namespace Agree

variable {α β α' β' : Type} {related : α → β → Prop} {related' : α' → β' → Prop}
  {x : Except SyntaxError α} {y : Except SyntaxError β}

theorem ok {a : α} {b : β} (h : related a b) : Agree related (.ok a) (.ok b) := by
  rintro _ _ ⟨⟩ ⟨⟩
  exact h

theorem read {a : α} {cs cs' : List Char} (h : Enclosed cs cs') :
    Agree Alike (.ok (a, cs)) (.ok (a, cs')) :=
  ok ⟨rfl, h⟩

theorem error {e : SyntaxError} : Agree related (.error e) y := by
  rintro _ _ ⟨⟩

theorem error_right {e : SyntaxError} : Agree related x (.error e) := by
  rintro _ _ _ ⟨⟩

theorem bind {f : α → Except SyntaxError α'} {g : β → Except SyntaxError β'}
    (h : Agree related x y) (hf : ∀ a b, related a b → Agree related' (f a) (g b)) :
    Agree related' (x >>= f) (y >>= g) := by
  cases x with
  | error e => exact .error
  | ok a =>
    cases y with
    | error e => exact .error_right
    | ok b => exact hf a b (h a b rfl rfl)

theorem bind_same {f : α → Except SyntaxError α'} {g : α → Except SyntaxError β'}
    (x : Except SyntaxError α) (hf : ∀ a, Agree related' (f a) (g a)) :
    Agree related' (x >>= f) (x >>= g) := by
  cases x with
  | error e => exact .error
  | ok a => exact hf a

theorem bind_rest {x y : Except SyntaxError (α × List Char)}
    {f : α × List Char → Except SyntaxError α'} {g : α × List Char → Except SyntaxError β'}
    (h : Agree Alike x y)
    (hf : ∀ a {cs cs' : List Char}, Enclosed cs cs' → Agree related' (f (a, cs)) (g (a, cs'))) :
    Agree related' (x >>= f) (y >>= g) := by
  refine bind h ?_
  rintro ⟨a, rest⟩ ⟨_, rest'⟩ ⟨rfl, hrest⟩
  exact hf a hrest

theorem map_value {x y : Except SyntaxError (α × List Char)} (h : Agree Alike x y) (g : α → β) :
    Agree Alike
      (do
        let (a, rest) ← x
        return (g a, rest))
      (do
        let (a, rest) ← y
        return (g a, rest)) :=
  h.bind_rest fun _ _ _ hrest => read hrest

end Agree

variable {cs cs' rest : List Char} {c d : Char} {kind : Char → Bool} {spaced inComment : Bool}
  {f : Flags}

theorem takeRun_eq_span (kind : Char → Bool) (cs : List Char) :
    takeRun kind false false cs = cs.span kind := by
  rw [List.span_eq_takeWhile_dropWhile]
  induction cs with
  | nil => rfl
  | cons c cs ih =>
    rw [takeRun, List.takeWhile_cons, List.dropWhile_cons, ih]
    cases kind c with
    | true => rfl
    | false => rfl

namespace Enclosed

theorem append (cs : List Char) : Enclosed cs (cs ++ [')']) := by
  induction cs with
  | nil => exact .closed
  | cons c cs ih => exact .cons ih

theorem of_eq_cons (h : Enclosed cs cs') (hcs : cs = c :: rest) :
    ∃ rest', cs' = c :: rest' ∧ Enclosed rest rest' := by
  cases h with
  | nil => contradiction
  | closed => contradiction
  | cons h =>
    obtain ⟨rfl, rfl⟩ := List.cons.inj hcs
    exact ⟨_, rfl, h⟩

theorem eq_nil (h : Enclosed cs []) : cs = [] := by
  cases h with
  | nil => rfl

theorem ne_append (h : Enclosed cs cs') (start : List Char) (hstart : ')' ∉ start)
    (hne : ∀ rest, cs ≠ start ++ rest) (rest : List Char) : cs' ≠ start ++ rest := by
  induction start generalizing cs cs' with
  | nil => exact absurd rfl (hne cs)
  | cons d start ih =>
    intro hcs'
    rw [List.mem_cons, not_or] at hstart
    cases h with
    | nil => contradiction
    | closed => exact hstart.1 (List.cons.inj hcs').1
    | cons h =>
      obtain ⟨rfl, htail⟩ := List.cons.inj hcs'
      refine ih h hstart.2 ?_ htail
      rintro rest rfl
      exact hne rest rfl

theorem dropSpacing (h : Enclosed cs cs') (inComment : Bool) :
    Enclosed (dropSpacing inComment cs) (dropSpacing inComment cs') := by
  induction h generalizing inComment with
  | nil => exact .nil
  | closed =>
    cases inComment with
    | true => exact .nil
    | false => exact .closed
  | cons h ih =>
    unfold Regex.dropSpacing
    split
    . exact ih _
    . split
      . exact ih _
      . split
        . exact ih _
        . exact .cons h

theorem skip (h : Enclosed cs cs') (spaced : Bool) :
    Enclosed (skip spaced cs) (skip spaced cs') := by
  cases spaced with
  | true => exact h.dropSpacing false
  | false => exact h

theorem takeRun (h : Enclosed cs cs') (spaced inComment : Bool)
    (hstops : kind ')' = false ∨ (takeRun kind spaced inComment cs).2 ≠ []) :
    Alike (takeRun kind spaced inComment cs) (takeRun kind spaced inComment cs') := by
  induction h generalizing inComment with
  | nil => exact ⟨rfl, .nil⟩
  | closed =>
    have hkind : kind ')' = false := hstops.resolve_right fun hrest => hrest rfl
    unfold Regex.takeRun
    split
    . exact ⟨rfl, .nil⟩
    . rw [hkind]
      cases spaced with
      | true => exact ⟨rfl, .closed⟩
      | false => exact ⟨rfl, .closed⟩
  | cons h ih =>
    unfold Regex.takeRun at hstops ⊢
    revert hstops
    split
    . exact ih _
    . split
      . exact ih _
      . split
        . exact ih _
        . split
          . intro hstops
            obtain ⟨hrun, hrest⟩ := ih false hstops
            exact ⟨congrArg (List.cons _) hrun, hrest⟩
          . intro _
            exact ⟨rfl, .cons h⟩

theorem takeRun_of_eq (h : Enclosed cs cs') {run : List Char}
    (hrun : Regex.takeRun kind spaced inComment cs = (run, c :: rest)) :
    ∃ rest', Regex.takeRun kind spaced inComment cs' = (run, c :: rest') ∧
      Enclosed rest rest' := by
  have hstops : (Regex.takeRun kind spaced inComment cs).2 ≠ [] := by
    rw [hrun]
    exact List.cons_ne_nil _ _
  have halike := h.takeRun spaced inComment (.inr hstops)
  rw [hrun] at halike
  generalize Regex.takeRun kind spaced inComment cs' = run' at halike ⊢
  obtain ⟨run', stop⟩ := run'
  obtain ⟨rfl, hrest⟩ := halike
  obtain ⟨rest', rfl, hrest'⟩ := hrest.of_eq_cons rfl
  exact ⟨rest', rfl, hrest'⟩

theorem dropWhile (h : Enclosed cs cs') (hkind : kind ')' = false) :
    Enclosed (cs.dropWhile kind) (cs'.dropWhile kind) := by
  have halike := h.takeRun false false (.inl hkind)
  rw [takeRun_eq_span, takeRun_eq_span] at halike
  simp only [List.span_eq_takeWhile_dropWhile] at halike
  exact halike.2

theorem after? (h : Enclosed cs cs') {start : List Char} (hstart : ')' ∉ start) :
    Option.Rel Enclosed (after? start cs) (after? start cs') := by
  induction start generalizing cs cs' with
  | nil => exact .some h
  | cons d start ih =>
    simp only [List.mem_cons, not_or] at hstart
    cases h with
    | nil => exact .none
    | closed =>
      unfold Regex.after?
      rw [if_neg hstart.1]
      exact .none
    | cons h =>
      unfold Regex.after?
      split
      . exact ih h hstart.2
      . exact .none

theorem dropPeeked (h : Enclosed cs cs') (hd : d ≠ ')') (inComment : Bool) :
    (∃ rest, dropPeeked inComment cs = some (d :: rest)) ↔
      ∃ rest, Regex.dropPeeked inComment cs' = some (d :: rest) := by
  induction h generalizing inComment with
  | nil => rfl
  | closed =>
    have hclosed : Regex.dropPeeked inComment [')'] = some [')'] := by cases inComment <;> rfl
    rw [hclosed]
    simp [Regex.dropPeeked, Ne.symm hd]
  | cons h ih =>
    unfold Regex.dropPeeked
    split
    . exact ih _
    . split
      . exact ih _
      . simp

end Enclosed

theorem peek?_spaced_iff (hblank : Text.isBlank d = false) (hd : d ≠ '#') :
    peek? true cs = some d ↔ ∃ rest, dropPeeked false cs = some (d :: rest) := by
  unfold peek?
  rw [if_pos rfl]
  cases hpeeked : dropPeeked false cs with
  | none =>
    simp only [Option.getD_none, reduceCtorEq, exists_false, iff_false]
    intro hhead
    obtain ⟨rest, rfl⟩ := List.head?_eq_some_iff.mp hhead
    simp [dropPeeked, hblank, hd] at hpeeked
  | some rest =>
    rw [Option.getD_some, List.head?_eq_some_iff]
    simp

theorem Enclosed.peek? (h : Enclosed cs cs') (hblank : Text.isBlank d = false) (hd : d ≠ '#')
    (hd' : d ≠ ')') (spaced : Bool) :
    peek? spaced cs = some d ↔ Regex.peek? spaced cs' = some d := by
  cases spaced with
  | true =>
    rw [peek?_spaced_iff hblank hd, peek?_spaced_iff hblank hd]
    exact h.dropPeeked hd' false
  | false =>
    cases h with
    | nil => rfl
    | closed => simp [Regex.peek?, Ne.symm hd']
    | cons h => rfl

theorem readHexDigits_agree (h : Enclosed cs cs') (spaced : Bool) (n : Nat) :
    Agree Alike (readHexDigits spaced n cs) (readHexDigits spaced n cs') := by
  induction n generalizing cs cs' with
  | zero => exact .read h
  | succ n ih =>
    cases h with
    | nil => exact .error
    | closed => exact .error
    | cons h =>
      unfold readHexDigits
      split
      . exact (ih (h.skip spaced)).map_value _
      . exact .error

theorem readHex_agree (h : Enclosed cs cs') (spaced : Bool) (width : Nat) :
    Agree Alike (readHex spaced width cs) (readHex spaced width cs') := by
  unfold readHex
  have hskip := h.skip spaced
  generalize skip spaced cs = text, skip spaced cs' = text' at hskip
  split
  . obtain ⟨_, rfl, hrest⟩ := hskip.of_eq_cons rfl
    simp only
    split
    . next hrun =>
      obtain ⟨rest', hrun', hrest⟩ := hrest.takeRun_of_eq hrun
      rw [hrun']
      simp only
      split
      . exact .error
      . refine Agree.bind_same _ ?_
        intro c
        exact .read (hrest.skip spaced)
    . exact .error
  . next hne =>
    split
    . exact absurd rfl (hskip.ne_append ['\x7b'] (by decide) hne _)
    . refine (readHexDigits_agree hskip spaced width).bind_rest ?_
      intro digits rest rest' hrest
      refine Agree.bind_same _ ?_
      intro c
      exact .read hrest

theorem readNamedSet_agree (h : Enclosed cs cs') (negated : Bool) :
    Agree Alike (readNamedSet f negated cs) (readNamedSet f negated cs') := by
  unfold readNamedSet
  extract_lets finish
  have hfinish (name : List Char) {rest rest' : List Char} (h : Enclosed rest rest') :
      Agree Alike (finish name rest) (finish name rest') := by
    unfold finish
    split
    . exact .error
    . split
      . refine Agree.bind_same _ ?_
        intro s
        exact .read h
      . exact .error
  clear_value finish
  have hskip := h.skip f.spaced
  generalize skip f.spaced cs = text, skip f.spaced cs' = text' at hskip
  split
  . exact .error
  . obtain ⟨_, rfl, hrest⟩ := hskip.of_eq_cons rfl
    simp only
    split
    . next name _ rest hrun =>
      obtain ⟨rest', hrun', hrest⟩ := hrest.takeRun_of_eq hrun
      rw [hrun']
      exact hfinish name hrest
    . exact .error
  . exact .error
  . next hbrace _ =>
    obtain ⟨_, rfl, hrest⟩ := hskip.of_eq_cons rfl
    split
    . exact .error_right
    . next heq => exact absurd (List.cons.inj heq).1 hbrace
    . exact .error_right
    . next heq =>
      obtain ⟨rfl, rfl⟩ := List.cons.inj heq
      exact hfinish _ (hrest.skip f.spaced)

theorem readClass_agree (h : Enclosed cs cs') (s : CharSet) (negated : Bool) :
    Agree Alike (readClass f s negated cs) (readClass f s negated cs') := by
  refine Agree.bind_same _ ?_
  intro s
  exact .read h

theorem readWordEdge_agree (h : Enclosed cs cs') (spaced : Bool) :
    Agree Alike (readWordEdge spaced cs) (readWordEdge spaced cs') := by
  unfold readWordEdge
  split
  . obtain ⟨_, rfl, hrest⟩ := h.of_eq_cons rfl
    simp only
    split
    . exact .error
    . next hrun =>
      obtain ⟨rest', hrun', -⟩ := hrest.takeRun_of_eq hrun
      rw [hrun']
      exact .read h
    . next hrun =>
      obtain ⟨rest', hrun', hrest⟩ := hrest.takeRun_of_eq hrun
      rw [hrun']
      simp only
      split
      . exact .read hrest
      . exact .read hrest
      . exact .read hrest
      . exact .read hrest
      . exact .error
    . exact .error
  . next hne =>
    split
    . exact absurd rfl (h.ne_append ['\x7b'] (by decide) hne _)
    . exact .read h

theorem readEscape_agree (h : Enclosed cs cs') :
    Agree Alike (readEscape f cs) (readEscape f cs') := by
  cases h with
  | nil => exact .error
  | closed => exact .error
  | cons h =>
    rw [readEscape, readEscape]
    split
    . exact .error
    . split
      . exact .read h
      . extract_lets hex edge hex'
        have hhex (width : Nat) : Agree Alike (hex width) (hex' width) := by
          refine Agree.bind (readHex_agree h f.spaced width) ?_
          rintro ⟨d, after⟩ ⟨_, after'⟩ ⟨rfl, hafter⟩
          dsimp only
          split
          . exact .error
          . split
            . exact .error_right
            . exact .read hafter
        clear_value hex hex'
        split
        all_goals first
          | exact hhex _
          | exact (readWordEdge_agree h f.spaced).map_value edge
          | exact readNamedSet_agree h _
          | exact readClass_agree h _ _
          | exact .read h
          | exact .error

theorem readSetAtom_agree (h : Enclosed cs cs') :
    Agree Alike (readSetAtom f cs) (readSetAtom f cs') := by
  unfold readSetAtom
  split
  . exact .error
  . obtain ⟨_, rfl, hrest⟩ := h.of_eq_cons rfl
    exact readEscape_agree hrest
  . next hescape =>
    obtain ⟨_, rfl, hrest⟩ := h.of_eq_cons rfl
    split
    . contradiction
    . next heq => exact absurd (List.cons.inj heq).1 hescape
    . next heq =>
      obtain ⟨rfl, rfl⟩ := List.cons.inj heq
      exact .read hrest

theorem readSetItem_agree (h : Enclosed cs cs') :
    Agree Alike (readSetItem f cs) (readSetItem f cs') := by
  unfold readSetItem
  refine (readSetAtom_agree h).bind_rest ?_
  intro first rest rest' hrest
  dsimp only
  have hskip := hrest.skip f.spaced
  generalize skip f.spaced rest = text, skip f.spaced rest' = text' at hskip
  have hfirst {rest rest' : List Char} (h : Enclosed rest rest') :
      Agree Alike (do return (← first.toSet f, rest)) (do return (← first.toSet f, rest')) := by
    refine Agree.bind_same _ ?_
    intro s
    exact .read h
  split
  . exact .error
  . obtain ⟨_, rfl, htail⟩ := hskip.of_eq_cons rfl
    have hpeek : (peek? f.spaced _ = some ']' ∨ peek? f.spaced _ = some '-') ↔ _ :=
      or_congr (htail.peek? (by decide) (by decide) (by decide) f.spaced)
        (htail.peek? (by decide) (by decide) (by decide) f.spaced)
    simp only [hpeek]
    split
    . exact hfirst hskip
    . refine (readSetAtom_agree (htail.skip f.spaced)).bind_rest ?_
      intro last rest rest' hrest
      dsimp only
      split
      . refine Agree.bind_same _ ?_
        intro s
        exact .read hrest
      . exact .error
  . next hhyphen =>
    split
    . exact .error_right
    . exact absurd rfl (hskip.ne_append ['-'] (by decide) hhyphen _)
    . exact hfirst hskip

theorem Enclosed.span_eq_nil (h : Enclosed cs cs') (hkind : kind ')' = true)
    (hrest : (cs.span kind).2 = []) : (cs'.span kind).2 = [] := by
  rw [List.span_eq_takeWhile_dropWhile] at hrest ⊢
  induction h with
  | nil => rfl
  | closed =>
    dsimp only
    rw [List.dropWhile_cons, if_pos hkind, List.dropWhile_nil]
  | cons h ih =>
    dsimp only at hrest ih ⊢
    rw [List.dropWhile_cons] at hrest ⊢
    split at hrest
    . next hc =>
      rw [if_pos hc]
      exact ih hrest
    . contradiction

theorem alike_negation {g : List Char → List Char}
    (hg : ∀ cs cs', Enclosed cs cs' → Enclosed (g cs) (g cs')) (cs cs' : List Char) :
    Enclosed cs cs' →
    Alike
      (match cs with
      | '^' :: rest => (true, g rest)
      | _ => (false, cs))
      (match cs' with
      | '^' :: rest => (true, g rest)
      | _ => (false, cs')) := by
  intro h
  split
  . obtain ⟨rest', rfl, hrest⟩ := h.of_eq_cons rfl
    exact ⟨rfl, hg _ _ hrest⟩
  . next hne =>
    split
    . exact absurd rfl (h.ne_append ['^'] (by decide) hne _)
    . exact ⟨rfl, h⟩

theorem readAsciiSet?_rel (h : Enclosed cs cs') :
    Option.Rel Alike (readAsciiSet? f cs) (readAsciiSet? f cs') := by
  -- The name ends at a colon, before a parenthesis at the end of the text.
  have hname {sign sign' : Bool × List Char} (h : Alike sign sign') :
      Option.Rel Alike
        (do
          let rest ← after? [':', ']'] (sign.2.span (· != ':')).2
          let ranges ← asciiRanges? (sign.2.span (· != ':')).1
          return (f.complement sign.1 (f.fold (CharSet.ofRanges ranges)), rest))
        (do
          let rest ← after? [':', ']'] (sign'.2.span (· != ':')).2
          let ranges ← asciiRanges? (sign'.2.span (· != ':')).1
          return (f.complement sign'.1 (f.fold (CharSet.ofRanges ranges)), rest)) := by
    obtain ⟨hnegated, h⟩ := h
    rw [← hnegated]
    cases hstop : (sign.2.span (· != ':')).2 with
    | nil =>
      rw [h.span_eq_nil rfl hstop]
      exact .none
    | cons c rest =>
      have hrun : takeRun (· != ':') false false sign.2 =
          ((sign.2.span (· != ':')).1, c :: rest) := by
        rw [takeRun_eq_span, ← hstop]
      obtain ⟨rest', hrun', hrest⟩ := h.takeRun_of_eq hrun
      rw [takeRun_eq_span] at hrun'
      rw [hrun']
      have hafter := (Enclosed.cons (c := c) hrest).after? (by decide : ')' ∉ [':', ']'])
      simp only [Option.bind_eq_bind]
      generalize after? _ (c :: rest) = after, after? _ (c :: rest') = after' at hafter ⊢
      cases hafter with
      | none => exact .none
      | some hafter =>
        simp only [Option.bind_some]
        cases asciiRanges? (sign.2.span (· != ':')).1 with
        | none => exact .none
        | some ranges => exact .some ⟨rfl, hafter⟩
  unfold readAsciiSet?
  have hafter := h.after? (by decide : ')' ∉ [':'])
  generalize after? [':'] cs = text, after? [':'] cs' = text' at hafter
  cases hafter with
  | none => exact .none
  | some h => exact hname (alike_negation (g := id) (fun _ _ h => h) _ _ h)

theorem alike_hyphens {sign sign' : Bool × List Char} (h : Alike sign sign') (spaced : Bool) :
    let opening (sign : Bool × List Char) : Bool × Items × List Char :=
      match takeRun (· == '-') spaced false sign.2 with
      | ([], ']' :: rest) => (sign.1, ⟨.single ']', 1, 0⟩, rest)
      | ([], rest) => (sign.1, .empty, rest)
      | (hyphens, rest) => (sign.1, ⟨.single '-', hyphens.length, 0⟩, rest)
    (opening sign).1 = (opening sign').1 ∧ Alike (opening sign).2 (opening sign').2 := by
  obtain ⟨hnegated, h⟩ := h
  have hrun : Alike (takeRun (· == '-') spaced false sign.2)
      (takeRun (· == '-') spaced false sign'.2) := h.takeRun spaced false (.inl rfl)
  dsimp only
  rw [← hnegated]
  generalize takeRun _ spaced false sign.2 = run, takeRun _ spaced false sign'.2 = run' at hrun ⊢
  obtain ⟨hyphens, rest⟩ := run
  obtain ⟨hyphens', rest'⟩ := run'
  obtain ⟨hhyphens, hrest⟩ := hrun
  dsimp only at hhyphens hrest
  rw [← hhyphens]
  split
  . next heq =>
    obtain ⟨rfl, rfl⟩ := Prod.mk.inj heq
    obtain ⟨_, rfl, hrest'⟩ := hrest.of_eq_cons rfl
    exact ⟨rfl, rfl, hrest'⟩
  . next hne heq =>
    obtain ⟨rfl, rfl⟩ := Prod.mk.inj heq
    split
    . next heq' =>
      obtain ⟨-, rfl⟩ := Prod.mk.inj heq'
      exact absurd rfl (hrest.ne_append [']'] (by decide) hne _)
    . next heq' =>
      obtain ⟨-, rfl⟩ := Prod.mk.inj heq'
      exact ⟨rfl, rfl, hrest⟩
    . next hnil heq' => exact absurd (Prod.mk.inj heq').1.symm hnil
  . next hne hnil heq =>
    obtain ⟨rfl, rfl⟩ := Prod.mk.inj heq
    split
    . next heq' => exact absurd (Prod.mk.inj heq').1 hnil
    . next heq' => exact absurd (Prod.mk.inj heq').1 hnil
    . next heq' =>
      obtain ⟨rfl, rfl⟩ := Prod.mk.inj heq'
      exact ⟨rfl, rfl, hrest⟩

theorem readSetOpening_alike (h : Enclosed cs cs') (spaced : Bool) :
    (readSetOpening spaced cs).1 = (readSetOpening spaced cs').1 ∧
      Alike (readSetOpening spaced cs).2 (readSetOpening spaced cs').2 := by
  unfold readSetOpening
  exact alike_hyphens (alike_negation (fun _ _ h => h.skip spaced) _ _ (h.skip spaced)) spaced

theorem readSetItems_agree (h : Enclosed cs cs') (n m : Nat) (pending : Pending) (items : Items) :
    Agree Alike (readSetItems f n pending items cs) (readSetItems f m pending items cs') := by
  induction n generalizing cs cs' m pending items with
  | zero => exact .error
  | succ n ih =>
    cases m with
    | zero => exact .error_right
    | succ m =>
      unfold readSetItems
      dsimp only
      have hskip := h.skip f.spaced
      generalize skip f.spaced cs = text, skip f.spaced cs' = text' at hskip
      split
      . exact .error
      . obtain ⟨rest', rfl, hrest⟩ := hskip.of_eq_cons rfl
        exact .read hrest
      . next rest =>
        obtain ⟨rest', rfl, hrest⟩ := hskip.of_eq_cons rfl
        simp only
        have hascii := readAsciiSet?_rel (f := f) hrest
        generalize readAsciiSet? f rest = ascii, readAsciiSet? f rest' = ascii' at hascii ⊢
        cases hascii with
        | none =>
          obtain ⟨hnegated, hfirst, hinner⟩ := readSetOpening_alike hrest f.spaced
          dsimp only
          rw [← hnegated, ← hfirst]
          refine (ih hinner m none _).bind_rest ?_
          intro s rest rest' hrest
          refine Agree.bind_same _ ?_
          intro s
          exact ih hrest m _ _
        | some hascii =>
          obtain ⟨hset, hrest⟩ := hascii
          dsimp only
          rw [← hset]
          refine Agree.bind_same _ ?_
          intro s
          exact ih hrest m _ _
      . obtain ⟨rest', rfl, hrest⟩ := hskip.of_eq_cons rfl
        obtain ⟨rest', rfl, hrest'⟩ := hrest.of_eq_cons rfl
        exact ih hrest' m _ _
      . obtain ⟨rest', rfl, hrest⟩ := hskip.of_eq_cons rfl
        obtain ⟨rest', rfl, hrest'⟩ := hrest.of_eq_cons rfl
        exact ih hrest' m _ _
      . obtain ⟨rest', rfl, hrest⟩ := hskip.of_eq_cons rfl
        obtain ⟨rest', rfl, hrest'⟩ := hrest.of_eq_cons rfl
        exact ih hrest' m _ _
      . next hclosing hopening hinter hdiff hsymm =>
        split
        . exact .error_right
        . exact absurd rfl (hskip.ne_append [']'] (by decide) hclosing _)
        . exact absurd rfl (hskip.ne_append ['['] (by decide) hopening _)
        . exact absurd rfl (hskip.ne_append ['&', '&'] (by decide) hinter _)
        . exact absurd rfl (hskip.ne_append ['-', '-'] (by decide) hdiff _)
        . exact absurd rfl (hskip.ne_append ['~', '~'] (by decide) hsymm _)
        . refine (readSetItem_agree hskip).bind_rest ?_
          intro s rest rest' hrest
          exact ih hrest m _ _

theorem readSet_agree (h : Enclosed cs cs') :
    Agree Alike (readSet f cs) (readSet f cs') := by
  unfold readSet
  obtain ⟨hnegated, hfirst, hinner⟩ := readSetOpening_alike h f.spaced
  dsimp only
  rw [← hnegated, ← hfirst]
  refine (readSetItems_agree hinner _ _ none _).bind_rest ?_
  intro s rest rest' hrest
  refine Agree.bind_same _ ?_
  intro set
  exact .read hrest

theorem readSingle_agree (h : Enclosed cs cs') :
    Agree Alike (readSingle f cs) (readSingle f cs') := by
  unfold readSingle
  split
  . exact .error
  . obtain ⟨rest', rfl, hrest⟩ := h.of_eq_cons rfl
    exact (readEscape_agree hrest).map_value _
  . obtain ⟨rest', rfl, hrest⟩ := h.of_eq_cons rfl
    refine Agree.bind_same _ ?_
    intro node
    exact .read hrest
  . obtain ⟨rest', rfl, hrest⟩ := h.of_eq_cons rfl
    exact .read hrest
  . obtain ⟨rest', rfl, hrest⟩ := h.of_eq_cons rfl
    exact .read hrest
  . next hescape hdot hcaret hdollar =>
    obtain ⟨rest', rfl, hrest⟩ := h.of_eq_cons rfl
    split
    . contradiction
    . next heq => exact absurd (List.cons.inj heq).1 hescape
    . next heq => exact absurd (List.cons.inj heq).1 hdot
    . next heq => exact absurd (List.cons.inj heq).1 hcaret
    . next heq => exact absurd (List.cons.inj heq).1 hdollar
    . next heq =>
      obtain ⟨rfl, rfl⟩ := List.cons.inj heq
      exact .read hrest

theorem readFlags_agree (h : Enclosed cs cs') (seen : List Char) :
    Agree (fun a b => a.2 ≠ [] ∧ Alike a b) (readFlags f seen cs) (readFlags f seen cs') := by
  induction h generalizing f seen with
  | nil => exact .error
  | closed => exact .error
  | cons h ih =>
    unfold readFlags
    split
    . split
      . exact .error
      . exact .ok ⟨List.cons_ne_nil _ _, rfl, .cons h⟩
    . split
      . exact .error
      . split
        . exact ih _
        . split
          . exact ih _
          . exact .error

theorem readGroupName_agree (h : Enclosed cs cs') :
    Agree Alike (readGroupName cs) (readGroupName cs') := by
  unfold readGroupName
  rw [← takeRun_eq_span, ← takeRun_eq_span]
  split
  . exact .error
  . exact .error
  . next hrun =>
    obtain ⟨rest', hrun', hrest⟩ := h.takeRun_of_eq hrun
    rw [hrun']
    simp only
    split
    . exact .read hrest
    . exact .error

theorem readNamedOpening_agree (h : Enclosed cs cs') :
    Agree Alike
      (do
        let (name, rest) ← readGroupName cs
        return (Opening.group (some name), rest))
      (do
        let (name, rest) ← readGroupName cs'
        return (Opening.group (some name), rest)) :=
  (readGroupName_agree h).map_value fun name => Opening.group (some name)

theorem readFlagsOpening_agree (h : Enclosed cs cs') :
    Agree Alike
      (do
        match ← readFlags f [] cs with
        | (f', ')' :: rest) => return (Opening.flags f', rest)
        | (f', rest) => return (.part f', rest.drop 1))
      (do
        match ← readFlags f [] cs' with
        | (f', ')' :: rest) => return (Opening.flags f', rest)
        | (f', rest) => return (.part f', rest.drop 1)) := by
  refine Agree.bind (readFlags_agree h []) ?_
  rintro ⟨f', rest⟩ ⟨_, rest'⟩ ⟨hne, rfl, hrest⟩
  cases hrest with
  | nil => exact absurd rfl hne
  | closed => exact absurd rfl hne
  | cons hrest =>
    split
    . next heq =>
      obtain ⟨rfl, hmark⟩ := Prod.mk.inj heq
      obtain ⟨rfl, rfl⟩ := List.cons.inj hmark
      exact .read hrest
    . next hne heq =>
      obtain ⟨rfl, rfl⟩ := Prod.mk.inj heq
      split
      . next heq' =>
        obtain ⟨-, hmark⟩ := Prod.mk.inj heq'
        obtain ⟨rfl, rfl⟩ := List.cons.inj hmark
        exact absurd rfl (hne _)
      . next heq' =>
        obtain ⟨rfl, rfl⟩ := Prod.mk.inj heq'
        exact .read hrest

theorem readOpening_agree (h : Enclosed cs cs') :
    Agree Alike (readOpening f cs) (readOpening f cs') := by
  unfold readOpening
  have hskip := h.skip f.spaced
  generalize skip f.spaced cs = text, skip f.spaced cs' = text' at hskip
  split
  . exact .error
  . exact .error
  . exact .error
  . exact .error
  . obtain ⟨_, rfl, hmark⟩ := hskip.of_eq_cons rfl
    obtain ⟨_, rfl, hletter⟩ := hmark.of_eq_cons rfl
    obtain ⟨_, rfl, hrest⟩ := hletter.of_eq_cons rfl
    exact readNamedOpening_agree hrest
  . obtain ⟨_, rfl, hmark⟩ := hskip.of_eq_cons rfl
    obtain ⟨_, rfl, hrest⟩ := hmark.of_eq_cons rfl
    split
    . exact .error_right
    . exact .error_right
    . exact .error_right
    . exact .error_right
    . next heq => simp at heq
    . next heq =>
      simp only [List.cons.injEq, true_and] at heq
      rw [← heq]
      exact readNamedOpening_agree hrest
    . exact .error_right
    . next hne _ heq => exact absurd (List.cons.inj heq).2.symm (hne _)
    . next hne => exact absurd rfl (hne _)
  . exact .error
  . next hnamed hquoted _ =>
    obtain ⟨_, rfl, hrest⟩ := hskip.of_eq_cons rfl
    split
    . exact .error_right
    . exact .error_right
    . exact .error_right
    . exact .error_right
    . next heq =>
      obtain ⟨-, rfl⟩ := List.cons.inj heq
      exact absurd rfl (hrest.ne_append ['P', '<'] (by decide) hnamed _)
    . next heq =>
      obtain ⟨-, rfl⟩ := List.cons.inj heq
      exact absurd rfl (hrest.ne_append ['<'] (by decide) hquoted _)
    . exact .error_right
    . next heq =>
      obtain ⟨-, rfl⟩ := List.cons.inj heq
      exact readFlagsOpening_agree hrest
    . next hne => exact absurd rfl (hne _)
  . next hnamed hquoted _ hflagged =>
    split
    . exact .error_right
    . exact .error_right
    . exact .error_right
    . exact .error_right
    . exact absurd rfl (hskip.ne_append ['?', 'P', '<'] (by decide) hnamed _)
    . exact absurd rfl (hskip.ne_append ['?', '<'] (by decide) hquoted _)
    . exact .error_right
    . exact absurd rfl (hskip.ne_append ['?'] (by decide) hflagged _)
    . exact .read hskip

theorem readCount_agree (h : Enclosed cs cs') (spaced : Bool) :
    Agree Alike (readCount spaced cs) (readCount spaced cs') := by
  have hblank : Text.isBlank ')' = false := by decide
  unfold readCount
  dsimp only
  have hrun : Alike (takeRun Char.isDigit spaced false (cs.dropWhile Text.isBlank))
      (takeRun Char.isDigit spaced false (cs'.dropWhile Text.isBlank)) :=
    (h.dropWhile hblank).takeRun spaced false (.inl rfl)
  rw [← hrun.1]
  have hrest := (hrun.2.dropWhile hblank).skip spaced
  split
  . exact .read hrest
  . split
    . exact .read hrest
    . exact .error

theorem readCounts_agree (h : Enclosed cs cs') (spaced : Bool) :
    Agree (fun a b => a.1 = b.1 ∧ Alike a.2 b.2) (readCounts spaced cs)
      (readCounts spaced cs') := by
  unfold readCounts
  refine (readCount_agree (h.skip spaced) spaced).bind_rest ?_
  intro least rest rest' hrest
  dsimp only
  cases least with
  | none => exact .error
  | some least =>
    dsimp only
    split
    . obtain ⟨_, rfl, hstop⟩ := hrest.of_eq_cons rfl
      exact .ok ⟨rfl, rfl, hstop⟩
    . next rest =>
      obtain ⟨rest', rfl, hcomma⟩ := hrest.of_eq_cons rfl
      simp only
      have hskip := hcomma.skip spaced
      generalize skip spaced rest = text, skip spaced rest' = text' at hskip ⊢
      split
      . obtain ⟨_, rfl, hstop⟩ := hskip.of_eq_cons rfl
        exact .ok ⟨rfl, rfl, hstop⟩
      . next hbrace =>
        split
        . exact absurd rfl (hskip.ne_append ['\x7d'] (by decide) hbrace _)
        . refine (readCount_agree hskip spaced).bind_rest ?_
          intro greatest rest rest' hrest
          split
          . next heq =>
            obtain ⟨rfl, rfl⟩ := Prod.mk.inj heq
            obtain ⟨_, rfl, hstop⟩ := hrest.of_eq_cons rfl
            simp only
            split
            . exact .ok ⟨rfl, rfl, hstop⟩
            . exact .error
          . exact .error
    . exact .error

theorem alike_greed (f : Flags) (cs cs' : List Char) : Enclosed cs cs' →
    Alike
      (match cs with
      | '?' :: cs => (f.swapGreed, cs)
      | _ => (!f.swapGreed, cs))
      (match cs' with
      | '?' :: cs => (f.swapGreed, cs)
      | _ => (!f.swapGreed, cs')) := by
  intro h
  split
  . obtain ⟨_, rfl, hrest⟩ := h.of_eq_cons rfl
    exact ⟨rfl, hrest⟩
  . next hne =>
    split
    . exact absurd rfl (h.ne_append ['?'] (by decide) hne _)
    . exact ⟨rfl, h⟩

theorem repeatLatest_agree (h : Enclosed cs cs') (min : Nat) (max : Option Nat)
    (operands : Operands) :
    Agree Alike (operands.repeatLatest f min max cs) (operands.repeatLatest f min max cs') := by
  unfold Operands.repeatLatest
  split
  . next body depth rest =>
    obtain ⟨hgreedy, hrest⟩ := alike_greed f cs cs' h
    let repeated (greedy : Bool) : Operands := .push rest ⟨body.rounds min max greedy, depth + 1⟩
    exact .ok ⟨congrArg repeated hgreedy, hrest⟩
  . exact .error

theorem readGroup_agree {n m : Nat}
    (hread : ∀ (f : Flags) (earlier : Alternatives) (operands : Operands) {cs cs' : List Char},
      Enclosed cs cs' → Agree Alike (readAlternatives n f earlier operands cs)
        (readAlternatives m f earlier operands cs'))
    (f' : Flags) (earlier : Alternatives) (operands : Operands) (wrapper : Node → Node)
    (h : Enclosed cs cs') :
    Agree Alike
      (do
        match ← readAlternatives n f' none [] cs with
        | (body, _ :: rest) =>
          readAlternatives n f earlier (operands.push (.wrap wrapper body)) rest
        | (_, []) => .error .unclosedGroup)
      (do
        match ← readAlternatives m f' none [] cs' with
        | (body, _ :: rest) =>
          readAlternatives m f earlier (operands.push (.wrap wrapper body)) rest
        | (_, []) => .error .unclosedGroup) := by
  refine Agree.bind (hread f' none [] h) ?_
  rintro ⟨body, rest⟩ ⟨_, rest'⟩ ⟨rfl, hclosing⟩
  -- The parenthesis in front of which the group ends is inside of it, so it is in both texts.
  cases hclosing with
  | nil => exact .error
  | closed => exact .error
  | cons hrest => exact hread f earlier _ hrest

theorem readAlternatives_agree (h : Enclosed cs cs') (n m : Nat) (earlier : Alternatives)
    (operands : Operands) :
    Agree Alike (readAlternatives n f earlier operands cs)
      (readAlternatives m f earlier operands cs') := by
  -- The two texts are not of one length, and so neither is the fuel of their readers.
  induction n generalizing m f earlier operands cs cs' with
  | zero => exact .error
  | succ n ih =>
    cases m with
    | zero => exact .error_right
    | succ m =>
      have hread (f : Flags) (earlier : Alternatives) (operands : Operands) {cs cs' : List Char}
          (h : Enclosed cs cs') :=
        ih (f := f) h m earlier operands
      unfold readAlternatives
      have hskip := h.skip f.spaced
      generalize skip f.spaced cs = text, skip f.spaced cs' = text' at hskip
      split
      . cases hskip with
        | nil => exact .read .nil
        | closed => exact .read .closed
      . obtain ⟨_, rfl, hrest⟩ := hskip.of_eq_cons rfl
        exact .read hskip
      . obtain ⟨_, rfl, hrest⟩ := hskip.of_eq_cons rfl
        exact ih hrest m _ _
      . obtain ⟨_, rfl, hrest⟩ := hskip.of_eq_cons rfl
        refine (readOpening_agree hrest).bind_rest ?_
        intro opening rest rest' hrest
        dsimp only
        split
        . exact ih hrest m _ _
        . exact readGroup_agree hread _ earlier operands _ hrest
        . exact readGroup_agree hread _ earlier operands id hrest
      . obtain ⟨_, rfl, hrest⟩ := hskip.of_eq_cons rfl
        refine (readSet_agree hrest).bind_rest ?_
        intro s rest rest' hrest
        exact ih hrest m _ _
      . obtain ⟨_, rfl, hrest⟩ := hskip.of_eq_cons rfl
        exact (repeatLatest_agree hrest _ _ _).bind_rest (hread f earlier)
      . obtain ⟨_, rfl, hrest⟩ := hskip.of_eq_cons rfl
        exact (repeatLatest_agree hrest _ _ _).bind_rest (hread f earlier)
      . obtain ⟨_, rfl, hrest⟩ := hskip.of_eq_cons rfl
        exact (repeatLatest_agree hrest _ _ _).bind_rest (hread f earlier)
      . obtain ⟨_, rfl, hrest⟩ := hskip.of_eq_cons rfl
        refine Agree.bind (readCounts_agree hrest f.spaced) ?_
        rintro ⟨min, max, rest⟩ ⟨_, _, rest'⟩ ⟨rfl, rfl, hrest⟩
        exact (repeatLatest_agree (hrest.skip f.spaced) _ _ _).bind_rest (hread f earlier)
      . next hnil hclosing hbar hopening hbracket hmark hstar hplus hbrace =>
        split
        . exact absurd hskip.eq_nil hnil
        . cases hskip with
          | closed => exact absurd rfl hnil
          | cons _ => exact absurd rfl (hclosing _)
        . exact absurd rfl (hskip.ne_append ['|'] (by decide) hbar _)
        . exact absurd rfl (hskip.ne_append ['('] (by decide) hopening _)
        . exact absurd rfl (hskip.ne_append ['['] (by decide) hbracket _)
        . exact absurd rfl (hskip.ne_append ['?'] (by decide) hmark _)
        . exact absurd rfl (hskip.ne_append ['*'] (by decide) hstar _)
        . exact absurd rfl (hskip.ne_append ['+'] (by decide) hplus _)
        . exact absurd rfl (hskip.ne_append ['\x7b'] (by decide) hbrace _)
        . refine (readSingle_agree hskip).bind_rest ?_
          intro node rest rest' hrest
          exact ih hrest m _ _

end Regex
end Waymark
