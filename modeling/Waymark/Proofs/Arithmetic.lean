import Waymark.Grammar.Arithmetic
import Waymark.Proofs.Decimal
import Waymark.Proofs.Recognition

/-!
This module contains the grammar of arithmetic expressions as derivations, each of which builds a
tree, and the proof that the parser of expressions succeeds on the texts that can be derived and
evaluates their trees.
-/

namespace Waymark

namespace Grammar
namespace Arithmetic

open Waymark.Language

inductive Operator where
  | plus
  | minus
  | times

namespace Operator

def sign : Operator → String
  | plus => "+"
  | minus => "-"
  | times => "*"

def wrapping : Operator → Int64 → Int64 → Int64
  | plus, m, n => m + n
  | minus, m, n => m - n
  | times, m, n => m * n

def exact : Operator → Int → Int → Int
  | plus, m, n => m + n
  | minus, m, n => m - n
  | times, m, n => m * n

theorem ofInt_exact (o : Operator) (m n : Int64) :
    Int64.ofInt (o.exact m.toInt n.toInt) = o.wrapping m n := by
  cases o with
  | plus => rw [exact, Int64.ofInt_add, Int64.ofInt_toInt, Int64.ofInt_toInt, wrapping]
  | minus => rw [exact, Int64.ofInt_sub, Int64.ofInt_toInt, Int64.ofInt_toInt, wrapping]
  | times => rw [exact, Int64.ofInt_mul, Int64.ofInt_toInt, Int64.ofInt_toInt, wrapping]

theorem applyOperation_eq (o : Operator) (acc : Int64) (v : Value) :
    Value.applyOperation acc (.seq [.token o.sign, v]) = o.wrapping acc (v.asInt?.getD 0) := by
  cases o <;> rfl

end Operator

inductive Tree where
  | number (digits : List Char)
  | apply (o : Operator) (a b : Tree)

namespace Tree

def value : Tree → Int64
  | number digits => (decimalInt? digits).getD 0
  | apply o a b => o.wrapping a.value b.value

def exact : Tree → Int
  | number digits => ((decimalInt? digits).getD 0).toInt
  | apply o a b => o.exact a.exact b.exact

def Fits : Tree → Prop
  | number _ => True
  | apply o a b =>
    a.Fits ∧ b.Fits ∧ Int64.minValue.toInt ≤ o.exact a.exact b.exact ∧
      o.exact a.exact b.exact ≤ Int64.maxValue.toInt

def decideFits : (tree : Tree) → Decidable tree.Fits
  | number _ => .isTrue trivial
  | apply _ a b =>
    have := a.decideFits
    have := b.decideFits
    inferInstanceAs (Decidable (_ ∧ _ ∧ _ ∧ _))

instance : DecidablePred Fits := decideFits

theorem toInt_value_of_fits {tree : Tree} (h : tree.Fits) : tree.value.toInt = tree.exact := by
  induction tree with
  | number digits => rfl
  | apply o a b iha ihb =>
    obtain ⟨ha, hb, hmin, hmax⟩ := h
    rw [value, ← Operator.ofInt_exact, iha ha, ihb hb, exact]
    apply Int64.toInt_ofInt_of_le
    . exact hmin
    . exact Int.lt_of_le_of_lt hmax (by decide)

end Tree

inductive Phrase where
  | atom
  | factors (first : Tree)
  | product
  | terms (first : Tree)
  | expr

/--
The texts that can be derived from a phrase, with the trees that they stand for. Blanks may follow
each token.
-/
inductive Derives : Phrase → Language Tree
  | digits {ds bs : List Char} (hds : IsRun Char.isDigit ds) (hbs : Blanks bs) :
    Derives .atom (ds ++ bs) (.number ds)
  | parentheses {bs xs bs' : List Char} {a : Tree} (hbs : Blanks bs) (h : Derives .expr xs a)
    (hbs' : Blanks bs') : Derives .atom ('(' :: bs ++ xs ++ ')' :: bs') a
  | noFactor {a : Tree} : Derives (.factors a) [] a
  | factor {bs xs ys : List Char} {a b c : Tree} (hbs : Blanks bs) (h : Derives .atom xs b)
    (hs : Derives (.factors (.apply .times a b)) ys c) :
    Derives (.factors a) ('*' :: bs ++ xs ++ ys) c
  | product {xs ys : List Char} {a b : Tree} (h : Derives .atom xs a)
    (hs : Derives (.factors a) ys b) : Derives .product (xs ++ ys) b
  | noTerm {a : Tree} : Derives (.terms a) [] a
  | plus {bs xs ys : List Char} {a b c : Tree} (hbs : Blanks bs) (h : Derives .product xs b)
    (hs : Derives (.terms (.apply .plus a b)) ys c) :
    Derives (.terms a) ('+' :: bs ++ xs ++ ys) c
  | minus {bs xs ys : List Char} {a b c : Tree} (hbs : Blanks bs) (h : Derives .product xs b)
    (hs : Derives (.terms (.apply .minus a b)) ys c) :
    Derives (.terms a) ('-' :: bs ++ xs ++ ys) c
  | expr {xs ys : List Char} {a b : Tree} (h : Derives .product xs a)
    (hs : Derives (.terms a) ys b) : Derives .expr (xs ++ ys) b

def values (phrase : Phrase) : Language Value :=
  map (Derives phrase) fun tree => .int tree.value

def atoms : Language Value :=
  (map (run Char.isDigit).lexeme Value.toInt).either
    (enclosed (word "(").lexeme (values .expr) (word ")").lexeme)

def operation (o : Operator) (X : Language Value) : Language Value :=
  pair (word o.sign).lexeme X

def folded (X R : Language Value) : Language Value :=
  map (pair X (map (Many R) .seq)) Value.foldOperations

def factors : Language Value :=
  operation .times atoms

def terms : Language Value :=
  (operation .plus (values .product)).either (operation .minus (values .product))

variable {X R : Language Value} {text front back : List Char} {v : Value} {vs : List Value}
  {a b c tree : Tree} {phrase operand series : Phrase} {rest : Tree → Phrase}

section Operand

structure Yields (X : Language Value) (phrase : Phrase) : Prop where
  derives {text : List Char} {v : Value} (h : X text v) :
    ∃ tree, Derives phrase text tree ∧ tree.value = v.asInt?.getD 0
  reads {text : List Char} {tree : Tree} (h : Derives phrase text tree) :
    ∃ v, X text v ∧ v.asInt?.getD 0 = tree.value

theorem values_yields (phrase : Phrase) : Yields (values phrase) phrase := by
  constructor
  . intro text v h
    obtain ⟨tree, htree, rfl⟩ := map_iff.mp h
    exact ⟨tree, htree, rfl⟩
  . intro text tree h
    exact ⟨.int tree.value, mem_map _ h, rfl⟩

theorem value_number {ds : List Char} (hds : IsRun Char.isDigit ds) :
    (Tree.number ds).value = (Value.toInt (.token (String.ofList ds))).asInt?.getD 0 := by
  rw [toInt_token hds.1 hds.2, Tree.value]
  cases decimalInt? ds with
  | none => rfl
  | some n => rfl

theorem atoms_yields : Yields atoms .atom := by
  constructor
  . rintro text v (h | h)
    . obtain ⟨_, hdigits, rfl⟩ := map_iff.mp h
      obtain ⟨ds, bs, rfl, hds, hbs, rfl⟩ := lexeme_spelled_iff.mp hdigits
      exact ⟨.number ds, .digits hds hbs, value_number hds⟩
    . obtain ⟨_, xs, _, _, _, rfl, hopening, hxs, hclosing⟩ := enclosed_iff.mp h
      obtain ⟨bs, rfl, hbs, -⟩ := lexeme_word_iff.mp hopening
      obtain ⟨bs', rfl, hbs', -⟩ := lexeme_word_iff.mp hclosing
      obtain ⟨tree, htree, rfl⟩ := map_iff.mp hxs
      exact ⟨tree, .parentheses hbs htree hbs', rfl⟩
  . intro text tree h
    cases h with
    | @digits ds bs hds hbs =>
      have htoken := lexeme_spelled_iff.mpr ⟨ds, bs, rfl, hds, hbs, rfl⟩
      exact ⟨_, .inl (mem_map Value.toInt htoken), (value_number hds).symm⟩
    | @parentheses bs xs bs' _ hbs h hbs' =>
      have henclosed := enclosed_iff.mpr ⟨_, xs, _, _, _, rfl, mem_lexeme_word "(" hbs,
        mem_map (fun tree => Value.int tree.value) h, mem_lexeme_word ")" hbs'⟩
      exact ⟨.int tree.value, .inr henclosed, rfl⟩

end Operand

section Folding

structure Continues (R : Language Value) (rest : Tree → Phrase) : Prop where
  derives {text : List Char} {vs : List Value} (h : Many R text vs) (a : Tree) :
    ∃ c : Tree, Derives (rest a) text c ∧ c.value = vs.foldl Value.applyOperation a.value
  reads {text : List Char} {a c : Tree} (h : Derives (rest a) text c) :
    ∃ vs, Many R text vs ∧ vs.foldl Value.applyOperation a.value = c.value

theorem operation_iff {o : Operator} : operation o X text v ↔
    ∃ bs xs w, text = o.sign.toList ++ bs ++ xs ∧ Blanks bs ∧ X xs w ∧
      v = .seq [.token o.sign, w] := by
  constructor
  . intro h
    obtain ⟨_, xs, _, w, rfl, hsign, hw, rfl⟩ := pair_iff.mp h
    obtain ⟨bs, rfl, hbs, rfl⟩ := lexeme_word_iff.mp hsign
    exact ⟨bs, xs, w, rfl, hbs, hw, rfl⟩
  . rintro ⟨bs, xs, w, rfl, hbs, hw, rfl⟩
    exact pair_iff.mpr ⟨_, xs, _, w, rfl, mem_lexeme_word o.sign hbs, hw, rfl⟩

theorem value_apply (o : Operator) (hv : v.asInt?.getD 0 = b.value) :
    (Tree.apply o a b).value = Value.applyOperation a.value (.seq [.token o.sign, v]) := by
  rw [Operator.applyOperation_eq, hv, Tree.value]

theorem Yields.operation {o : Operator} (hX : Yields X operand) (h : operation o X text v)
    (a : Tree) :
    ∃ bs xs b, text = o.sign.toList ++ bs ++ xs ∧ Blanks bs ∧ Derives operand xs b ∧
      (Tree.apply o a b).value = Value.applyOperation a.value v := by
  obtain ⟨bs, xs, w, htext, hbs, hw, rfl⟩ := operation_iff.mp h
  obtain ⟨b, hb, hvalue⟩ := hX.derives hw
  exact ⟨bs, xs, b, htext, hbs, hb, value_apply o hvalue.symm⟩

theorem derives_of_many (hnil : ∀ a, Derives (rest a) [] a)
    (hcons : ∀ a front v, R front v → ∃ b : Tree, b.value = Value.applyOperation a.value v ∧
      ∀ back c, Derives (rest b) back c → Derives (rest a) (front ++ back) c)
    (h : Many R text vs) (a : Tree) :
    ∃ c : Tree, Derives (rest a) text c ∧ c.value = vs.foldl Value.applyOperation a.value := by
  induction h generalizing a with
  | nil => exact ⟨a, hnil a, rfl⟩
  | cons hv _ ih =>
    obtain ⟨b, hvalue, hback⟩ := hcons a _ _ hv
    obtain ⟨c, hc, hfold⟩ := ih b
    exact ⟨c, hback _ _ hc, by rw [hfold, hvalue, List.foldl_cons]⟩

theorem Yields.many_cons {o : Operator} {bs xs ys : List Char} (hX : Yields X operand)
    (hR : ∀ text v, Arithmetic.operation o X text v → R text v) (hbs : Blanks bs)
    (hb : Derives operand xs b)
    (hvs : ∃ vs, Many R ys vs ∧
      vs.foldl Value.applyOperation (Tree.apply o a b).value = c.value) :
    ∃ vs, Many R (o.sign.toList ++ bs ++ xs ++ ys) vs ∧
      vs.foldl Value.applyOperation a.value = c.value := by
  obtain ⟨v, hv, hvalue⟩ := hX.reads hb
  obtain ⟨vs, hvs, hfold⟩ := hvs
  refine ⟨_, .cons (hR _ _ (operation_iff.mpr ⟨bs, xs, v, rfl, hbs, hv, rfl⟩)) hvs, ?_⟩
  rw [List.foldl_cons, ← value_apply o hvalue, hfold]

theorem factors_continues : Continues factors .factors := by
  constructor
  . intro text vs h a
    refine derives_of_many (fun _ => .noFactor) ?_ h a
    intro a front v hv
    obtain ⟨bs, xs, b, rfl, hbs, hb, hvalue⟩ := atoms_yields.operation hv a
    exact ⟨_, hvalue, fun back c hc => .factor hbs hb hc⟩
  . intro text a c h
    generalize hphrase : Phrase.factors a = phrase at h
    induction h generalizing a with
    | noFactor =>
      cases hphrase
      exact ⟨[], .nil, rfl⟩
    | factor hbs hb _ _ ih =>
      cases hphrase
      exact atoms_yields.many_cons (o := .times) (fun _ _ h => h) hbs hb (ih rfl)
    | _ => cases hphrase

theorem terms_continues : Continues terms .terms := by
  constructor
  . intro text vs h a
    refine derives_of_many (fun _ => .noTerm) ?_ h a
    rintro a front v (hv | hv)
    . obtain ⟨bs, xs, b, rfl, hbs, hb, hvalue⟩ := (values_yields .product).operation hv a
      exact ⟨_, hvalue, fun back c hc => .plus hbs hb hc⟩
    . obtain ⟨bs, xs, b, rfl, hbs, hb, hvalue⟩ := (values_yields .product).operation hv a
      exact ⟨_, hvalue, fun back c hc => .minus hbs hb hc⟩
  . intro text a c h
    generalize hphrase : Phrase.terms a = phrase at h
    induction h generalizing a with
    | noTerm =>
      cases hphrase
      exact ⟨[], .nil, rfl⟩
    | plus hbs hb _ _ ih =>
      cases hphrase
      exact (values_yields .product).many_cons (o := .plus) (fun _ _ => .inl) hbs hb (ih rfl)
    | minus hbs hb _ _ ih =>
      cases hphrase
      exact (values_yields .product).many_cons (o := .minus) (fun _ _ => .inr) hbs hb (ih rfl)
    | _ => cases hphrase

theorem folded_iff : folded X R text v ↔
    ∃ front back w vs, text = front ++ back ∧ X front w ∧ Many R back vs ∧
      v = .int (vs.foldl Value.applyOperation (w.asInt?.getD 0)) := by
  constructor
  . intro h
    obtain ⟨_, hpair, rfl⟩ := map_iff.mp h
    obtain ⟨front, back, w, _, htext, hw, hmany, rfl⟩ := pair_iff.mp hpair
    obtain ⟨vs, hvs, rfl⟩ := map_iff.mp hmany
    exact ⟨front, back, w, vs, htext, hw, hvs, rfl⟩
  . rintro ⟨front, back, w, vs, htext, hw, hvs, rfl⟩
    exact mem_map _ (pair_iff.mpr ⟨front, back, w, _, htext, hw, mem_map Value.seq hvs, rfl⟩)

theorem folded_eq (hX : Yields X operand) (hR : Continues R rest)
    (hseries : ∀ text c, Derives series text c ↔
      ∃ front back a, text = front ++ back ∧ Derives operand front a ∧ Derives (rest a) back c) :
    folded X R = values series := by
  funext text v
  apply propext
  rw [folded_iff, values, map_iff]
  constructor
  . rintro ⟨front, back, w, vs, htext, hw, hvs, rfl⟩
    obtain ⟨a, ha, hvalue⟩ := hX.derives hw
    obtain ⟨c, hc, hfold⟩ := hR.derives hvs a
    exact ⟨c, (hseries text c).mpr ⟨front, back, a, htext, ha, hc⟩, by rw [hfold, hvalue]⟩
  . rintro ⟨c, hc, rfl⟩
    obtain ⟨front, back, a, htext, ha, hc⟩ := (hseries text c).mp hc
    obtain ⟨w, hw, hvalue⟩ := hX.reads ha
    obtain ⟨vs, hvs, hfold⟩ := hR.reads hc
    exact ⟨front, back, w, vs, htext, hw, hvs, by rw [hvalue, hfold]⟩

theorem folded_factors : folded atoms factors = values .product := by
  apply folded_eq atoms_yields factors_continues
  intro text c
  constructor
  . intro h
    cases h with
    | product ha hc => exact ⟨_, _, _, rfl, ha, hc⟩
  . rintro ⟨front, back, a, rfl, ha, hc⟩
    exact .product ha hc

theorem folded_terms : folded (values .product) terms = values .expr := by
  apply folded_eq (values_yields .product) terms_continues
  intro text c
  constructor
  . intro h
    cases h with
    | expr ha hc => exact ⟨_, _, _, rfl, ha, hc⟩
  . rintro ⟨front, back, a, rfl, ha, hc⟩
    exact .expr ha hc

end Folding

section Recognition

def afterAtom : Char → Bool :=
  union Char.isDigit Text.isBlank

def afterProduct : Char → Bool :=
  union afterAtom (· == '*')

def afterExpr : Char → Bool :=
  union afterProduct (union (· == '+') (· == '-'))

def startsAtom : Char → Bool :=
  union Char.isDigit (· == '(')

theorem isBlank_of_startsAtom : ∀ c, startsAtom c = true → Text.isBlank c = false :=
  union_eq_false (fun _ => Text.isBlank_of_isDigit) (eq_false_of_beq (by decide))

theorem starts_atoms : atoms.Starts startsAtom :=
  (starts_run Char.isDigit).bind.bind.either (starts_word rfl).bind.bind

theorem starts_folded {first : Char → Bool} (h : X.Starts first) : (folded X R).Starts first :=
  h.bind.bind

theorem starts_products : (values .product).Starts startsAtom := by
  rw [← folded_factors]
  exact starts_folded starts_atoms

theorem starts_exprs : (values .expr).Starts startsAtom := by
  rw [← folded_terms]
  exact starts_folded starts_products

theorem factors_repeats : factors.Repeats (· == '*') afterAtom where
  starts := (starts_word rfl).bind.bind
  mid_eq_false := eq_false_of_beq (by decide)

theorem terms_repeats : terms.Repeats (union (· == '+') (· == '-')) afterProduct where
  starts := (starts_word rfl).bind.bind.either (starts_word rfl).bind.bind
  mid_eq_false := union_eq_false (eq_false_of_beq (by decide)) (eq_false_of_beq (by decide))

open Waymark.Parser

variable {bound : Nat} {p q : Parser} {first mid : Char → Bool}

theorem recognizes_folded (hp : Recognizes rules bound p X mid)
    (hq : Recognizes rules bound q R mid) (hR : R.Repeats first mid) :
    Recognizes rules bound (.map (.sequence [p, .many q]) Value.foldOperations) (folded X R)
      (union mid first) :=
  (hp.sequence (hq.many hR) hR.shields.map).map Value.foldOperations

theorem recognizes_atom (h : Recognizes rules bound (.rule "expr") (values .expr) afterExpr) :
    Recognizes rules (bound + 1) atom atoms afterAtom := by
  have hclosing : Recognizes rules (bound + 1) (.token (.literal ")")) (word ")").lexeme
      afterAtom := recognizes_symbol ")" (union_right Char.isDigit)
  have hstarts : (word "(").lexeme.Starts (· == '(') := (starts_word rfl).bind
  have hends : (word ")").lexeme.Shields afterAtom afterExpr :=
    (starts_word (c := ')') rfl).bind.shields (eq_false_of_beq (by decide))
  have hbetween := (recognizes_sign "(").between h hclosing hstarts
    (starts_exprs.shields isBlank_of_startsAtom) hends
  have hnumber : Recognizes rules (bound + 1) (.map (.token .digits) Value.toInt)
      (map (run Char.isDigit).lexeme Value.toInt) afterAtom := recognizes_digits.map Value.toInt
  exact hnumber.choice hbetween (starts_run Char.isDigit).bind.bind hstarts.bind
    (eq_false_symm (eq_false_of_beq (by decide)))

theorem recognizes_product (h : Recognizes rules bound atom atoms afterAtom) :
    Recognizes rules bound product (values .product) afterProduct := by
  have hfactor := (recognizes_sign "*").sequence h (starts_atoms.shields isBlank_of_startsAtom)
  rw [← folded_factors]
  exact recognizes_folded h hfactor factors_repeats

theorem recognizes_expr (h : Recognizes rules bound atom atoms afterAtom) :
    Recognizes rules bound expr (values .expr) afterExpr := by
  have hproduct := recognizes_product h
  have hsigns : Recognizes rules bound (.choice [.token (.literal "+"), .token (.literal "-")])
      ((word "+").lexeme.either (word "-").lexeme) Text.isBlank :=
    (recognizes_sign "+").choice (recognizes_sign "-") (starts_word (c := '+') rfl).bind
      (starts_word (c := '-') rfl).bind (eq_false_of_beq (by decide))
  have hterm := hsigns.sequence hproduct (starts_products.shields isBlank_of_startsAtom)
  rw [pair_either] at hterm
  rw [← folded_terms]
  exact recognizes_folded hproduct hterm terms_repeats

theorem recognizes_rule (bound : Nat) :
    Recognizes rules bound (.rule "expr") (values .expr) afterExpr := by
  induction bound with
  | zero => apply recognizes_zero
  | succ bound ih =>
    have hresolve : rules.resolve "expr" = expr := rfl
    apply Recognizes.rule
    rw [hresolve]
    exact recognizes_expr (recognizes_atom ih)

/--
The parser of whole expressions comes to an end on every text. It succeeds on those that can be
derived from the grammar, with the value of the tree as its result, and on no others. The value is
exact if all values on the way to it are in range.
-/
theorem whole_evaluates (text : String) (j : Journal) :
    ∃ t k, (∃ n, parseText rules n whole text j = .done t k) ∧
      (t.isError = false ↔ ∃ tree, Derives .expr text.toList tree) ∧
      ∀ tree, Derives .expr text.toList tree →
        t.result = .int tree.value ∧ (tree.Fits → tree.value.toInt = tree.exact) := by
  have hexpr (bound : Nat) : Recognizes rules bound expr (values .expr) afterExpr := by
    cases bound with
    | zero => apply recognizes_zero
    | succ bound => exact recognizes_expr (recognizes_atom (recognizes_rule bound))
  obtain ⟨t, k, hdone, ht⟩ := Recognizes.ends_parseText hexpr text j
  refine ⟨t, k, hdone, ⟨?_, ?_⟩, ?_⟩
  . intro hlive
    obtain ⟨tree, htree, -⟩ := map_iff.mp (ht.sound hlive)
    exact ⟨tree, htree⟩
  . rintro ⟨tree, htree⟩
    exact (ht.complete _ (mem_map _ htree)).1
  . intro tree htree
    exact ⟨(ht.complete _ (mem_map _ htree)).2, Tree.toInt_value_of_fits⟩

theorem whole_evaluates_differences :
    ∃ tree, Derives .expr "8 - 2*3 - 1".toList tree ∧ tree.Fits ∧ tree.exact = 1 ∧
      ∃ t k n, parseText rules n whole "8 - 2*3 - 1" {} = .done t k ∧ t.isError = false ∧
        t.result = .int 1 ∧ tree.value.toInt = tree.exact := by
  have number (d : Char) (bs : List Char) (hd : IsRun Char.isDigit [d]) (hbs : Blanks bs) :
      Derives .atom ([d] ++ bs) (.number [d]) := .digits hd hbs
  have hblank : Blanks [' '] := by decide
  have hnone : Blanks [] := by decide
  have h8 := Derives.product (number '8' [' '] (by decide) hblank) .noFactor
  have h6 := Derives.product (number '2' [] (by decide) hnone)
    (.factor hnone (number '3' [' '] (by decide) hblank) .noFactor)
  have h1 := Derives.product (number '1' [] (by decide) hnone) .noFactor
  have htree : Derives .expr "8 - 2*3 - 1".toList _ :=
    .expr h8 (.minus hblank h6 (.minus hblank h1 .noTerm))
  obtain ⟨t, k, ⟨n, hn⟩, hlive, hvalue⟩ := whole_evaluates "8 - 2*3 - 1" {}
  obtain ⟨hresult, hexact⟩ := hvalue _ htree
  refine ⟨_, htree, by decide, by decide, t, k, n, hn, hlive.mpr ⟨_, htree⟩, ?_,
    hexact (by decide)⟩
  rw [hresult]
  decide

end Recognition

end Arithmetic
end Grammar
end Waymark
