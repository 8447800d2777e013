import Waymark.Proofs.InOrder
import Waymark.Proofs.Peg.Expr

/-!
This module contains the parsing expressions that parsers and rules stand for.
-/

namespace Waymark

namespace Parser

open Peg

mutual

def expr : Parser → Expr
  | .literal text => .text text.toList
  | .pattern p => .pattern p.regex
  | .eatUntil terminal => .upTo terminal
  | .anyChar => .any
  | .endOfInput => .not .any
  | .peek | .getState | .succeed _ => .empty
  | .fail _ => .fail
  | .sequence ps => .seqs (exprs ps)
  | .sequenceSepBy separator ps => .seqsBetween separator.expr (exprs ps)
  | .choice ps => .alts (exprs ps)
  | .many body => .star body.expr
  | .many1 body => .plus body.expr
  | .sepBy separator body => .sepBy separator.expr body.expr
  | .sepBy1 separator body => .sepBy1 separator.expr body.expr
  | .between opening content closing => .seqs [opening.expr, content.expr, closing.expr]
  | .optional body => .opt body.expr
  | .keepLeft left right | .keepRight left right => .seqs [left.expr, right.expr]
  | .map body _ | .mapError body _ | .deferred body => body.expr
  | .rule name => .rule name
  | .setState _ | .chain _ _ | .contextual _ | .transform _ => .fail

def exprs : List Parser → List Expr
  | [] => []
  | p :: ps => p.expr :: exprs ps

end

theorem seqs_eachAfter (separator : Parser) (ps : List Parser) :
    Expr.seqs (exprs (eachAfter separator ps)) = .seqsAfter separator.expr (exprs ps) := by
  induction ps with
  | nil => rfl
  | cons p ps ih =>
    rw [eachAfter, exprs, exprs, exprs, Expr.seqs, Expr.seqs, Expr.seqsAfter, ih]

theorem seqs_separated (separator : Parser) (ps : List Parser) :
    Expr.seqs (exprs (separated separator ps)) = .seqsBetween separator.expr (exprs ps) := by
  cases ps with
  | nil => rfl
  | cons p ps =>
    rw [separated, exprs, exprs, Expr.seqs, Expr.seqsBetween, seqs_eachAfter]

end Parser

def Rules.grammar (rules : Rules) (name : String) : Peg.Expr :=
  (rules.resolve name).expr

end Waymark
