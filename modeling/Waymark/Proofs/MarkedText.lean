import Mathlib.Tactic.MkIffOfInductiveProp
import Waymark.Proofs.CursorSafety
import Waymark.Proofs.ErrorChain

/-!
This module contains what the mark of a state denotes. However it came there, by a match, from the
alternative that got furthest or from the attempt that ended a repetition, it is a significant span
of the text that is parsed.
-/

namespace Waymark

/--
Whether the token of a mark is the span of a text between the two offsets, and not a separator.
-/
@[mk_iff]
structure Mark.Denotes (target : Input) (m : Mark) : Prop where
  parserIndex_lt : m.parserIndex < m.tokenIndex
  tokenIndex_le : m.tokenIndex ≤ target.size
  isSome_parserIndex : (target.dropBytes m.parserIndex).isSome = true
  isSome_tokenIndex : (target.dropBytes m.tokenIndex).isSome = true
  slice_eq : target.slice m.parserIndex (m.tokenIndex - m.parserIndex) = some m.token.toList
  token_ne : m.token ≠ ","
  not_blank : m.token.toList.all Text.isBlank = false

namespace Mark.Denotes

instance (target : Input) : DecidablePred (Denotes target) := fun m =>
  decidable_of_iff' _ (denotes_iff target m)

theorem ofToken {target : Input} {before token after : List Char}
    (hchars : target.chars = before ++ token ++ after) (h : Text.isInsignificant token = false) :
    Denotes target (.ofToken (String.ofList token) (Text.size before)
      (Text.size before + Text.size token)) := by
  unfold Text.isInsignificant at h
  rw [Bool.or_eq_false_iff, beq_eq_false_iff_ne] at h
  obtain ⟨hcomma, hblank⟩ := h
  have hpos : Text.size token ≠ 0 := by
    rw [ne_eq, Text.size_eq_zero_iff]
    rintro rfl
    contradiction
  constructor
  . dsimp [Mark.ofToken]
    omega
  . dsimp [Mark.ofToken]
    rw [Input.size_eq, hchars, Text.size_append, Text.size_append]
    omega
  . rw [Option.isSome_iff_exists]
    refine ⟨token ++ after, ?_⟩
    rw [Input.dropBytes_eq, Text.dropBytes_eq_some_iff]
    exact ⟨before, by rw [hchars, List.append_assoc], rfl⟩
  . rw [Option.isSome_iff_exists]
    refine ⟨after, ?_⟩
    rw [Input.dropBytes_eq, Text.dropBytes_eq_some_iff]
    exact ⟨before ++ token, hchars, Text.size_append _ _⟩
  . rw [Input.slice_eq, Text.slice_eq_some_iff]
    refine ⟨before, after, ?_, rfl, ?_⟩
    . simpa [Mark.ofToken] using hchars
    . simp [Mark.ofToken]
  . intro h
    apply hcomma
    have := congrArg String.toList h
    simpa [Mark.ofToken] using this
  . simpa [Mark.ofToken] using hblank

end Mark.Denotes

@[mk_iff]
structure State.Marks (target : Input) (s : State) : Prop where
  target_eq : s.target = target
  onBoundary : s.OnBoundary
  mark : s.mark = {} ∨ s.mark.Denotes target

namespace State.Marks

variable {target : Input} {s t : State}

instance (target : Input) : DecidablePred (Marks target) := fun s =>
  decidable_of_iff' _ (marks_iff target s)

theorem fresh (target : Input) (registry : RegistryId) : Marks target { target, registry } :=
  ⟨rfl, ⟨[], target.chars, rfl, rfl⟩, .inl rfl⟩

theorem withDiagnosticsOf (hs : s.Marks target) (ht : t.Marks target) :
    (s.withDiagnosticsOf t).Marks target :=
  ⟨hs.target_eq, hs.onBoundary, ht.mark⟩

theorem past (hs : s.Marks target) {front back : List Char} (hrest : s.rest = front ++ back) :
    (s.past front).Marks target := by
  refine ⟨?_, hs.onBoundary.past hrest, ?_⟩
  . rw [State.target_past, hs.target_eq]
  . rw [State.mark_past]
    cases h : Text.isInsignificant front with
    | true =>
      rw [if_pos rfl]
      exact hs.mark
    | false =>
      right
      obtain ⟨before, hchars, hsize⟩ := hs.onBoundary.split
      rw [hs.target_eq, hrest, ← List.append_assoc] at hchars
      rw [if_neg Bool.false_ne_true, ← hsize]
      exact .ofToken hchars h

end State.Marks

def Invariant.marked (target : Input) : Invariant where
  holds := State.Marks target
  withResult h _ := ⟨h.target_eq, h.onBoundary, h.mark⟩
  fail h _ := ⟨h.target_eq, h.onBoundary, h.mark⟩
  withDiagnosticsOf h ht := h.withDiagnosticsOf ht
  consume h _ _ hrest := ⟨_, h.onBoundary.consume_eq hrest, h.past hrest⟩

instance (target : Input) : DecidablePred (Invariant.marked target).holds :=
  inferInstanceAs (DecidablePred (State.Marks target))

namespace Parser

variable {rules : Rules} {p : Parser}

/--
The mark of every state that is passed to a parser or returned by one is the empty one or denotes a
significant span of the text. This holds of the states of a text from a fresh one on, and so of the
one that parsing the text ends with.
-/
theorem marks_denote_text (hp : p.Throughout rules (fun _ => True) BringsNothing) (text : String) :
    (∀ registry, State.Marks text { target := text, registry }) ∧
      (∀ s j, s.Marks text →
        (∀ n, guarded rules (State.Marks text) n p s j = parse rules n p s j) ∧
          (∀ n cause, parse rules n p s j ≠ .fault cause) ∧
          ∀ t k, Returns rules p s j t k → t.Marks text) ∧
      ∀ n j t k, parseText rules n p text j = .done t k → t.Marks text := by
  have hallows (q : Parser) (hq : q.BringsNothing) : (Invariant.marked text).Allows q := hq.allows _
  have hp' : p.Throughout rules (Invariant.marked text).holds BringsNothing :=
    hp.mono (fun _ _ => trivial) fun _ hq => hq
  have halways (s : State) (j : Journal) (hs : s.Marks text) :=
    (Invariant.marked text).always_holds hallows hs (Invariant.runsOnly hallows hp' hs j)
  refine ⟨?_, ?_, ?_⟩
  . exact .fresh text
  . intro s j hs
    obtain ⟨hfault, -, hreturns⟩ := halways s j hs
    refine ⟨?_, hfault, hreturns⟩
    intro n
    exact Invariant.guarded_eq hallows hp' n hs j
  . intro n j t k h
    obtain ⟨registry, j', k', ht⟩ := returns_of_parseText h
    obtain ⟨-, -, hreturns⟩ := halways _ j' (.fresh text registry)
    exact hreturns t k' ht

theorem marks_denote_text_many :
    let p : Parser := .sequence
      [.many (.sequence [.literal "é", .literal ","]),
        .choice [.sequence [.literal "né", .literal "x"], .literal "y"]]
    let s : State := { target := "é,é,né", registry := 0 }
    p.Throughout [] (fun _ => True) BringsNothing ∧
      ∃ t k, Returns [] p s {} t k ∧ t.isError = true ∧ t.mark = .ofToken "né" 6 9 ∧
        t.mark.Denotes "é,é,né" := by
  intro p s
  have hp : p.Throughout [] (fun _ => True) BringsNothing := by
    refine Throughout.of_list [p, .many (.sequence [.literal "é", .literal ","]),
      .choice [.sequence [.literal "né", .literal "x"], .literal "y"],
      .sequence [.literal "é", .literal ","], .sequence [.literal "né", .literal "x"], .literal "é",
      .literal ",", .literal "né", .literal "x", .literal "y"] ?_ ?_ ?_ ?_ ?_
    . simp
    . simp [IsPlain, p]
    . simp [inner, p]
    . simp [p]
    . simp [BringsNothing, p]
  have hpasses : (parse [] 5 p s {}).passes
      (fun t _ => t.isError && t.mark == .ofToken "né" 6 9) = true := by
    decide +kernel
  obtain ⟨t, k, ht, htest⟩ := returns_of_passes 5 hpasses
  obtain ⟨herror, hmark⟩ : t.isError = true ∧ t.mark = .ofToken "né" 6 9 := by simpa using htest
  obtain ⟨hfresh, hrun, -⟩ := marks_denote_text hp "é,é,né"
  obtain ⟨-, -, hreturns⟩ := hrun s {} (hfresh 0)
  have hne : t.mark ≠ {} := by
    rw [hmark]
    decide
  have hdenotes := (hreturns t k ht).mark.resolve_left hne
  exact ⟨hp, t, k, ht, herror, hmark, hdenotes⟩

end Parser
end Waymark
