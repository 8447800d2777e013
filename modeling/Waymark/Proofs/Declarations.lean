import Waymark.Grammar.Declarations
import Waymark.Proofs.Decimal
import Waymark.Proofs.Recognition

/-!
This module contains the grammar of declarations as derivations, each of which builds a value, and
the proof that the parser of programs succeeds on the texts that can be derived and returns their
values.
-/

namespace Waymark

namespace Grammar
namespace Declarations

open Waymark.Language

inductive Series (sign : Char) (L : Language Value) : Language (List Value)
  | one {xs : List Char} {v : Value} (h : L xs v) : Series sign L xs [v]
  | cons {xs bs ys : List Char} {v : Value} {vs : List Value} (h : L xs v) (hbs : Blanks bs)
    (hs : Series sign L ys vs) : Series sign L (xs ++ (sign :: bs ++ ys)) (v :: vs)

inductive Number : Language Value
  | digits {ds bs : List Char} (hds : IsRun Char.isDigit ds) (hbs : Blanks bs) :
    Number (ds ++ bs) ((decimalInt? ds).elim .null .int)

inductive Initializer : Language Value
  | number {xs : List Char} {v : Value} (h : Number xs v) : Initializer xs v
  | list {bs xs bs' : List Char} {vs : List Value} (hbs : Blanks bs)
    (h : Series ',' Number xs vs ∨ xs = [] ∧ vs = []) (hbs' : Blanks bs') :
    Initializer ('[' :: bs ++ xs ++ ']' :: bs') (.seq vs)

inductive Declaration : Language Value
  | declare {keyword : String} {bs name bs' bs'' xs : List Char} {v : Value}
    (hkeyword : keyword = "let" ∨ keyword = "const") (hbs : Blanks bs)
    (hname : IsRun Char.isAlpha name) (hbs' : Blanks bs') (hbs'' : Blanks bs'')
    (h : Initializer xs v) :
    Declaration (keyword.toList ++ bs ++ (name ++ bs' ++ ('=' :: bs'' ++ xs)))
      (.record
        [("keyword", .token keyword), ("name", .token (String.ofList name)), ("value", v)])

inductive Program : Language Value
  | declarations {text : List Char} {vs : List Value} (h : Series ';' Declaration text vs) :
    Program text (.seq vs)

section Languages

variable {text : List Char} {v : Value} {vs : List Value} {L : Language Value} {sign : Char}

theorem series_of_many {w : String} {xs : List Char} (hw : w.toList = [sign]) (hv : L xs v)
    (h : Many ((word w).lexeme.bind fun _ => L) text vs) :
    Series sign L (xs ++ text) (v :: vs) := by
  induction h generalizing xs v with
  | nil =>
    rw [List.append_nil]
    exact .one hv
  | cons hround _ ih =>
    obtain ⟨_, ys, _, rfl, hsign, hv'⟩ := hround
    obtain ⟨bs, rfl, hbs, -⟩ := lexeme_word_iff.mp hsign
    have hseries := Series.cons hv hbs (ih hv')
    rw [hw, List.append_assoc]
    exact hseries

theorem separated_eq {w : String} (hw : w.toList = [sign]) :
    separated (word w).lexeme L = Series sign L := by
  funext text vs
  apply propext
  constructor
  . intro h
    obtain ⟨xs, ys, v, vs, rfl, hv, hvs, rfl⟩ := bind_map_iff.mp h
    exact series_of_many hw hv hvs
  . intro h
    induction h with
    | one hv => exact separated_one _ hv
    | cons hv hbs _ ih =>
      have hsign := mem_lexeme_word w hbs
      rw [hw] at hsign
      exact separated_cons hv hsign ih

def numbers : Language Value :=
  map (run Char.isDigit).lexeme Value.toInt

theorem numbers_eq : numbers = Number := by
  funext text v
  apply propext
  constructor
  . intro h
    obtain ⟨_, htoken, rfl⟩ := map_iff.mp h
    obtain ⟨ds, bs, rfl, hds, hbs, rfl⟩ := lexeme_spelled_iff.mp htoken
    rw [toInt_token hds.1 hds.2]
    exact .digits hds hbs
  . rintro (@⟨ds, bs, hds, hbs⟩)
    have htoken := lexeme_spelled_iff.mpr ⟨ds, bs, rfl, hds, hbs, rfl⟩
    rw [← toInt_token hds.1 hds.2]
    exact mem_map Value.toInt htoken

def lists : Language Value :=
  enclosed (word "[").lexeme (map ((Series ',' Number).either (succeed [])) .seq)
    (word "]").lexeme

theorem initializers_eq : Number.either lists = Initializer := by
  funext text v
  apply propext
  constructor
  . rintro (h | h)
    . exact .number h
    . obtain ⟨_, xs, _, _, _, rfl, hopening, hlist, hclosing⟩ := enclosed_iff.mp h
      obtain ⟨bs, rfl, hbs, -⟩ := lexeme_word_iff.mp hopening
      obtain ⟨bs', rfl, hbs', -⟩ := lexeme_word_iff.mp hclosing
      obtain ⟨vs, hvs, rfl⟩ := map_iff.mp hlist
      exact .list hbs hvs hbs'
  . intro h
    cases h with
    | number h => exact .inl h
    | @list bs xs bs' vs hbs h hbs' =>
      have hlist : map ((Series ',' Number).either (succeed [])) Value.seq xs (.seq vs) :=
        mem_map Value.seq h
      exact .inr (enclosed_iff.mpr
        ⟨_, xs, _, _, _, rfl, mem_lexeme_word "[" hbs, hlist, mem_lexeme_word "]" hbs'⟩)

def keywords : Language Value :=
  (word "let").either (word "const")

def declarations : Language Value :=
  keywords.lexeme.bind fun keyword => (run Char.isAlpha).lexeme.bind fun name =>
    (word "=").lexeme.bind fun _ => map Initializer fun v =>
      .record [("keyword", keyword), ("name", name), ("value", v)]

theorem keywords_iff : keywords text v ↔
    ∃ keyword : String, (keyword = "let" ∨ keyword = "const") ∧ text = keyword.toList ∧
      v = .token keyword := by
  constructor
  . rintro (⟨rfl, rfl⟩ | ⟨rfl, rfl⟩)
    . exact ⟨"let", .inl rfl, rfl, rfl⟩
    . exact ⟨"const", .inr rfl, rfl, rfl⟩
  . rintro ⟨_, rfl | rfl, rfl, rfl⟩
    . exact .inl ⟨rfl, rfl⟩
    . exact .inr ⟨rfl, rfl⟩

theorem declarations_eq : declarations = Declaration := by
  funext text v
  apply propext
  constructor
  . rintro ⟨_, _, _, rfl, hfirst, _, _, _, rfl, hsecond, h⟩
    obtain ⟨_, xs, _, v, rfl, hsign, hv, rfl⟩ := bind_map_iff.mp h
    obtain ⟨_, bs, rfl, hword, hbs⟩ := lexeme_iff.mp hfirst
    obtain ⟨keyword, hkeyword, rfl, rfl⟩ := keywords_iff.mp hword
    obtain ⟨name, bs', rfl, hname, hbs', rfl⟩ := lexeme_spelled_iff.mp hsecond
    obtain ⟨bs'', rfl, hbs'', -⟩ := lexeme_word_iff.mp hsign
    exact .declare hkeyword hbs hname hbs' hbs'' hv
  . intro h
    cases h with
    | @declare keyword bs name bs' bs'' xs v hkeyword hbs hname hbs' hbs'' h =>
      have hword := keywords_iff.mpr ⟨keyword, hkeyword, rfl, rfl⟩
      refine ⟨_, _, _, rfl, lexeme_iff.mpr ⟨_, bs, rfl, hword, hbs⟩, name ++ bs', _, _, rfl,
        lexeme_spelled_iff.mpr ⟨name, bs', rfl, hname, hbs', rfl⟩, ?_⟩
      exact bind_map_iff.mpr ⟨_, xs, _, v, rfl, mem_lexeme_word "=" hbs'', h, rfl⟩

theorem program_iff : Program text v ↔ map (Series ';' Declaration) .seq text v := by
  constructor
  . rintro ⟨h⟩
    exact mem_map Value.seq h
  . intro h
    obtain ⟨vs, hvs, rfl⟩ := map_iff.mp h
    exact .declarations hvs

end Languages

section Recognition

open Waymark.Parser

def afterValue : Char → Bool :=
  union Char.isDigit Text.isBlank

def startsInitializer : Char → Bool :=
  union Char.isDigit (· == '[')

def startsDeclaration : Char → Bool :=
  union (· == 'l') (· == 'c')

theorem isBlank_of_startsInitializer : ∀ c, startsInitializer c = true → Text.isBlank c = false :=
  union_eq_false (fun _ => Text.isBlank_of_isDigit) (eq_false_of_beq (by decide))

theorem isBlank_of_startsDeclaration : ∀ c, startsDeclaration c = true → Text.isBlank c = false :=
  union_eq_false (eq_false_of_beq (by decide)) (eq_false_of_beq (by decide))

theorem starts_number : Number.Starts Char.isDigit := by
  rw [← numbers_eq]
  exact (starts_run Char.isDigit).bind.bind

theorem starts_initializer : Initializer.Starts startsInitializer := by
  rw [← initializers_eq]
  exact starts_number.either (starts_word rfl).bind.bind

theorem starts_declaration : Declaration.Starts startsDeclaration := by
  rw [← declarations_eq]
  exact ((starts_word rfl).either (starts_word rfl)).bind.bind

theorem rounds_repeat (L : Language Value) {w : String} {sign : Char} (hw : w.toList = [sign])
    (hsign : afterValue sign = false) :
    ((word w).lexeme.bind fun _ => L).Repeats (· == sign) afterValue where
  starts := (starts_word hw).bind.bind
  mid_eq_false := eq_false_of_beq hsign

variable {rules : Rules} {bound : Nat}

theorem recognizes_number : Recognizes rules bound number Number afterValue := by
  rw [← numbers_eq]
  exact recognizes_digits.map Value.toInt

theorem recognizes_items :
    Recognizes rules bound (.sepBy (.token (.literal ",")) number)
      (map ((Series ',' Number).either (succeed [])) .seq) (union afterValue (· == ',')) := by
  have hw : ",".toList = [','] := rfl
  rw [← separated_eq hw]
  exact (recognizes_sign ",").sepBy recognizes_number (rounds_repeat Number hw (by decide))
    (starts_number.shields fun _ => Text.isBlank_of_isDigit) starts_number
    (union_left Text.isBlank)

theorem shields_items : (map ((Series ',' Number).either (succeed [])) Value.seq).Shields
    (union afterValue (· == ',')) Text.isBlank := by
  have hw : ",".toList = [','] := rfl
  rw [← separated_eq hw]
  apply Shields.map
  apply Shields.either
  . exact starts_number.bind.shields fun _ => Text.isBlank_of_isDigit
  . apply shields_succeed
    intro c hc
    exact union_left _ c (union_right Char.isDigit c hc)

theorem recognizes_value : Recognizes rules bound value Initializer afterValue := by
  cases bound with
  | zero => apply recognizes_zero
  | succ bound =>
    have hclosing : Recognizes rules (bound + 1) (.token (.literal "]")) (word "]").lexeme
        afterValue := recognizes_symbol "]" (union_right Char.isDigit)
    have hstarts : (word "[").lexeme.Starts (· == '[') := (starts_word rfl).bind
    have hends : (word "]").lexeme.Shields afterValue (union afterValue (· == ',')) :=
      (starts_word (c := ']') rfl).bind.shields (eq_false_of_beq (by decide))
    have hlist := (recognizes_sign "[").between recognizes_items hclosing hstarts shields_items
      hends
    rw [← initializers_eq]
    exact recognizes_number.choice hlist starts_number hstarts.bind
      (eq_false_symm (eq_false_of_beq (by decide)))

theorem recognizes_keyword :
    Recognizes rules bound (.token (.choice [.literal "let", .literal "const"])) keywords.lexeme
      Text.isBlank := by
  have hchoice : Recognizes rules bound (.choice [.literal "let", .literal "const"]) keywords
      fun _ => false :=
    (recognizes_literal "let" _).choice (recognizes_literal "const" _) (starts_word (c := 'l') rfl)
      (starts_word (c := 'c') rfl) (eq_false_of_beq (by decide))
  exact hchoice.token (fun _ _ => rfl) nofun fun _ hc => hc

theorem ofFields_bound (keyword name v : Value) :
    let bindings := ((Bindings.bind [] (some "keyword") keyword).bind (some "name") name).bind
      (some "value") v
    Value.ofFields
      [("keyword", bindings.value "keyword"), ("name", bindings.value "name"),
       ("value", bindings.value "value")] =
      .record [("keyword", keyword), ("name", name), ("value", v)] := by
  have hname : ¬ "name" < "keyword" := by decide
  have hvalue : ¬ "value" < "keyword" := by decide
  have hvalue' : ¬ "value" < "name" := by decide
  simp only [Value.ofFields, Ascending.ofList, Ascending.put, Bindings.bind, Bindings.value,
    List.foldl_cons, List.foldl_nil, List.lookup_cons, Option.getD_some, String.reduceEq,
    String.reduceBEq, if_false, hname, hvalue, hvalue']

theorem recognizes_declaration : Recognizes rules bound declaration Declaration afterValue := by
  rw [← declarations_eq]
  apply Recognizes.doBlock
  apply recognizes_keyword.ofSteps
  . intro keyword
    apply recognizes_letters.ofSteps
    . intro name
      apply (recognizes_sign "=").ofSteps
      . intro _
        apply recognizes_value.ofSteps
        . intro v
          beta_reduce
          rw [← ofFields_bound keyword name v]
          apply recognizes_finish
        . intro _
          exact shields_succeed fun _ hc => hc
      . intro _
        exact starts_initializer.bind.shields isBlank_of_startsInitializer
    . intro _
      exact (starts_word (c := '=') rfl).bind.bind.shields (eq_false_of_beq (by decide))
  . intro _
    exact (starts_run Char.isAlpha).bind.bind.shields fun _ => Text.isBlank_of_isAlpha

/--
The parser of programs comes to an end on every text. It succeeds on those that can be derived from
the grammar, with the value of the derivation as its result, and on no others.
-/
theorem program_parses (text : String) (j : Journal) :
    ∃ t k, (∃ n, parseText [] n program text j = .done t k) ∧
      (t.isError = false ↔ ∃ v, Program text.toList v) ∧
      ∀ v, Program text.toList v → t.result = v := by
  have hseries (bound : Nat) : Recognizes [] bound (.sepBy1 (.token (.literal ";")) declaration)
      (map (Series ';' Declaration) .seq) (union afterValue (· == ';')) := by
    have hw : ";".toList = [';'] := rfl
    rw [← separated_eq hw]
    exact (recognizes_sign ";").sepBy1 recognizes_declaration
      (rounds_repeat Declaration hw (by decide))
      (starts_declaration.shields isBlank_of_startsDeclaration)
  obtain ⟨t, k, hdone, ht⟩ := Recognizes.ends_parseText hseries text j
  refine ⟨t, k, hdone, ⟨?_, ?_⟩, ?_⟩
  . intro hlive
    exact ⟨_, program_iff.mpr (ht.sound hlive)⟩
  . rintro ⟨v, hv⟩
    exact (ht.complete v (program_iff.mp hv)).1
  . intro v hv
    exact (ht.complete v (program_iff.mp hv)).2

theorem program_parses_lists :
    ∃ t k n, parseText [] n program "const a=[ ];let b = [1,2]" {} = .done t k ∧
      t.isError = false ∧
      t.result = .seq
        [.record [("keyword", .token "const"), ("name", .token "a"), ("value", .seq [])],
         .record [("keyword", .token "let"), ("name", .token "b"),
           ("value", .seq [.int 1, .int 2])]] := by
  have hblank : Blanks [' '] := by decide
  have hnone : Blanks [] := by decide
  have hempty : Initializer "[ ]".toList (.seq []) := .list hblank (.inr ⟨rfl, rfl⟩) hnone
  have hone : Number ['1'] (.int 1) := .digits (show IsRun Char.isDigit ['1'] by decide) hnone
  have htwo : Number ['2'] (.int 2) := .digits (show IsRun Char.isDigit ['2'] by decide) hnone
  have hnumbers : Series ',' Number "1,2".toList _ := .cons hone hnone (.one htwo)
  have hlist : Initializer "[1,2]".toList _ := .list hnone (.inl hnumbers) hnone
  have hconst : Declaration "const a=[ ]".toList _ :=
    .declare (.inr rfl) hblank (show IsRun Char.isAlpha ['a'] by decide) hnone hnone hempty
  have hlet : Declaration "let b = [1,2]".toList _ :=
    .declare (.inl rfl) hblank (show IsRun Char.isAlpha ['b'] by decide) hblank hblank hlist
  have hprogram : Program "const a=[ ];let b = [1,2]".toList _ :=
    .declarations (.cons hconst hnone (.one hlet))
  obtain ⟨t, k, ⟨n, hn⟩, hlive, hvalue⟩ := program_parses "const a=[ ];let b = [1,2]" {}
  exact ⟨t, k, n, hn, hlive.mpr ⟨_, hprogram⟩, hvalue _ hprogram⟩

end Recognition

end Declarations
end Grammar
end Waymark
