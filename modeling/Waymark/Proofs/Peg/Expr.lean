import Waymark.Regex

/-!
This module contains parsing expressions and what they derive. An expression either matches a front
part of a text and leaves the rest, or it fails; an expression that would go on forever derives
neither. A `pattern` matches up to the end of the leftmost match of a regular expression, `upTo` what
is before it. `Derives.unique` shows that an expression derives at most one outcome from a text.
-/

namespace Waymark
namespace Peg

inductive Expr where
  | empty
  | fail
  | any
  | text (cs : List Char)
  | pattern (re : Regex)
  | upTo (re : Regex)
  | not (e : Expr)
  | seq (first second : Expr)
  | alt (first second : Expr)
  | star (e : Expr)
  | rule (name : String)

namespace Expr

def plus (e : Expr) : Expr :=
  .seq e (.star e)

def opt (e : Expr) : Expr :=
  .alt e .empty

def seqs : List Expr → Expr
  | [] => .empty
  | e :: es => .seq e (seqs es)

def seqsAfter (separator : Expr) : List Expr → Expr
  | [] => .empty
  | e :: es => .seq separator (.seq e (seqsAfter separator es))

def seqsBetween (separator : Expr) : List Expr → Expr
  | [] => .empty
  | e :: es => .seq e (seqsAfter separator es)

def alts : List Expr → Expr
  | [] => .fail
  | e :: es => .alt e (alts es)

def sepBy1 (separator e : Expr) : Expr :=
  .seq e (.star (.seq separator e))

def sepBy (separator e : Expr) : Expr :=
  .opt (.sepBy1 separator e)

end Expr

abbrev Meaning := String → List Char → Option (List Char) → Prop

/--
What an expression derives from a text when the names in it derive what `names` says.
-/
inductive Matches (names : Meaning) : Expr → List Char → Option (List Char) → Prop where
  | empty {xs : List Char} : Matches names .empty xs (some xs)
  | fail {xs : List Char} : Matches names .fail xs none
  | any {c : Char} {xs : List Char} : Matches names .any (c :: xs) (some xs)
  | anyEnd : Matches names .any [] none
  | text {cs xs ys : List Char} (h : xs = cs ++ ys) : Matches names (.text cs) xs (some ys)
  | textMiss {cs xs : List Char} (h : ¬ cs <+: xs) : Matches names (.text cs) xs none
  | pattern {re : Regex} {xs ys : List Char} {span : Regex.Span} (h : re.find? xs = some span)
      (hdrop : Text.dropBytes span.stop xs = some ys) : Matches names (.pattern re) xs (some ys)
  | patternMiss {re : Regex} {xs : List Char} (h : re.find? xs = none) :
      Matches names (.pattern re) xs none
  | upTo {re : Regex} {xs ys : List Char} {span : Regex.Span} (h : re.find? xs = some span)
      (hdrop : Text.dropBytes span.start xs = some ys) : Matches names (.upTo re) xs (some ys)
  | upToEnd {re : Regex} {xs : List Char} (h : re.find? xs = none) :
      Matches names (.upTo re) xs (some [])
  | not {e : Expr} {xs : List Char} (h : Matches names e xs none) :
      Matches names (.not e) xs (some xs)
  | notFail {e : Expr} {xs ys : List Char} (h : Matches names e xs (some ys)) :
      Matches names (.not e) xs none
  | seq {e₁ e₂ : Expr} {xs ys : List Char} {o : Option (List Char)}
      (h₁ : Matches names e₁ xs (some ys)) (h₂ : Matches names e₂ ys o) :
      Matches names (.seq e₁ e₂) xs o
  | seqFail {e₁ e₂ : Expr} {xs : List Char} (h : Matches names e₁ xs none) :
      Matches names (.seq e₁ e₂) xs none
  | alt {e₁ e₂ : Expr} {xs ys : List Char} (h : Matches names e₁ xs (some ys)) :
      Matches names (.alt e₁ e₂) xs (some ys)
  | altElse {e₁ e₂ : Expr} {xs : List Char} {o : Option (List Char)}
      (h₁ : Matches names e₁ xs none) (h₂ : Matches names e₂ xs o) :
      Matches names (.alt e₁ e₂) xs o
  | star {e : Expr} {xs ys : List Char} {o : Option (List Char)}
      (h₁ : Matches names e xs (some ys)) (h₂ : Matches names (.star e) ys o) :
      Matches names (.star e) xs o
  | starEnd {e : Expr} {xs : List Char} (h : Matches names e xs none) :
      Matches names (.star e) xs (some xs)
  | rule {name : String} {xs : List Char} {o : Option (List Char)} (h : names name xs o) :
      Matches names (.rule name) xs o

inductive Derives (grammar : String → Expr) : Expr → List Char → Option (List Char) → Prop where
  | intro {e : Expr} {xs : List Char} {o : Option (List Char)}
      (h : Matches (fun name => Derives grammar (grammar name)) e xs o) : Derives grammar e xs o

variable {names names' : Meaning} {grammar : String → Expr} {e : Expr} {xs : List Char}
  {o o' : Option (List Char)}

theorem derives_iff :
    Derives grammar e xs o ↔ Matches (fun name => Derives grammar (grammar name)) e xs o := by
  constructor
  . rintro ⟨h⟩
    exact h
  . exact .intro

theorem Derives.names_induction {motive : Expr → List Char → Option (List Char) → Prop}
    (step : ∀ e xs o,
      Matches (fun name xs o => Derives grammar (grammar name) xs o ∧ motive (grammar name) xs o)
        e xs o → motive e xs o)
    (h : Derives grammar e xs o) : motive e xs o := by
  -- A derivation goes through a match; the second motive keeps for each name in it what the name
  -- derives along with the induction hypothesis.
  induction h using Derives.rec
    (motive_2 := fun e xs o _ =>
      Matches (fun name xs o => Derives grammar (grammar name) xs o ∧ motive (grammar name) xs o)
        e xs o) with
  | intro _ ih => exact step _ _ _ ih
  | empty => exact .empty
  | fail => exact .fail
  | any => exact .any
  | anyEnd => exact .anyEnd
  | text h => exact .text h
  | textMiss h => exact .textMiss h
  | pattern h hdrop => exact .pattern h hdrop
  | patternMiss h => exact .patternMiss h
  | upTo h hdrop => exact .upTo h hdrop
  | upToEnd h => exact .upToEnd h
  | not _ ih => exact .not ih
  | notFail _ ih => exact .notFail ih
  | seq _ _ ih₁ ih₂ => exact .seq ih₁ ih₂
  | seqFail _ ih => exact .seqFail ih
  | alt _ ih => exact .alt ih
  | altElse _ _ ih₁ ih₂ => exact .altElse ih₁ ih₂
  | star _ _ ih₁ ih₂ => exact .star ih₁ ih₂
  | starEnd _ ih => exact .starEnd ih
  | rule h ih => exact .rule ⟨h, ih⟩

theorem Matches.unique
    (hnames : ∀ name xs o o', names name xs o → names' name xs o' → o = o')
    (h : Matches names e xs o) (h' : Matches names' e xs o') : o = o' := by
  induction h generalizing o' with
  | empty =>
    cases h'
    rfl
  | fail =>
    cases h'
    rfl
  | any =>
    cases h'
    rfl
  | anyEnd =>
    cases h'
    rfl
  | text h =>
    cases h' with
    | text h' =>
      rw [h] at h'
      rw [List.append_cancel_left h']
    | textMiss h' => exact absurd ⟨_, h.symm⟩ h'
  | textMiss h =>
    cases h' with
    | text h' => exact absurd ⟨_, h'.symm⟩ h
    | textMiss => rfl
  | pattern h hdrop =>
    cases h' with
    | pattern h' hdrop' =>
      obtain rfl := Option.some.inj (h.symm.trans h')
      rw [← hdrop, hdrop']
    | patternMiss h' => cases h.symm.trans h'
  | patternMiss h =>
    cases h' with
    | pattern h' => cases h.symm.trans h'
    | patternMiss => rfl
  | upTo h hdrop =>
    cases h' with
    | upTo h' hdrop' =>
      obtain rfl := Option.some.inj (h.symm.trans h')
      rw [← hdrop, hdrop']
    | upToEnd h' => cases h.symm.trans h'
  | upToEnd h =>
    cases h' with
    | upTo h' => cases h.symm.trans h'
    | upToEnd => rfl
  | not _ ih =>
    cases h' with
    | not => rfl
    | notFail h' => cases ih h'
  | notFail _ ih =>
    cases h' with
    | not h' => cases ih h'
    | notFail => rfl
  | seq _ _ ih₁ ih₂ =>
    cases h' with
    | seq h₁ h₂ =>
      obtain rfl := Option.some.inj (ih₁ h₁)
      exact ih₂ h₂
    | seqFail h' => cases ih₁ h'
  | seqFail _ ih =>
    cases h' with
    | seq h₁ _ => cases ih h₁
    | seqFail => rfl
  | alt _ ih =>
    cases h' with
    | alt h' => exact ih h'
    | altElse h₁ _ => cases ih h₁
  | altElse _ _ ih₁ ih₂ =>
    cases h' with
    | alt h' => cases ih₁ h'
    | altElse _ h₂ => exact ih₂ h₂
  | star _ _ ih₁ ih₂ =>
    cases h' with
    | star h₁ h₂ =>
      obtain rfl := Option.some.inj (ih₁ h₁)
      exact ih₂ h₂
    | starEnd h' => cases ih₁ h'
  | starEnd _ ih =>
    cases h' with
    | star h₁ _ => cases ih h₁
    | starEnd => rfl
  | rule h =>
    cases h' with
    | rule h' => exact hnames _ _ _ _ h h'

theorem Derives.unique (h : Derives grammar e xs o) (h' : Derives grammar e xs o') : o = o' := by
  apply h.names_induction (motive := fun e xs o => ∀ o', Derives grammar e xs o' → o = o') _ _ h'
  intro e xs o h o' h'
  apply Matches.unique _ h (derives_iff.mp h')
  rintro name xs o o' ⟨-, ih⟩ h'
  exact ih _ h'

end Peg
end Waymark
