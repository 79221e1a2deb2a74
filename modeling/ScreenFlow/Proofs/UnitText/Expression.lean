import ScreenFlow.Proofs.UnitText.Reading
import ScreenFlow.UnitText.Expr.Reader

/-!
From an atom to an expression.  Where no operator stands in front of an atom and none behind it, every
level of the grammar reads the same.
-/

namespace ScreenFlow.UnitText

namespace Reader

/-- Tokens behind which no expression goes on. -/
def closers : List Token :=
  [.mark ",", .mark "]", .mark "\x7d", .mark ":", .mark "=", .newline]

/-- Tokens with which an expression starts in a way of its own, or with which none starts. -/
def openers : List Token :=
  [.word "lambda", .word "not", .word "await", .word "yield", .mark "*", .mark "**", .mark "]",
    .mark "\x7d"]

def EndsExpression (rest : List Token) : Prop :=
  headOf rest ∈ closers

theorem EndsExpression.ne {rest : List Token} (hrest : EndsExpression rest) {token : Token}
    (htoken : token ∉ closers) : headOf rest ≠ token := by
  rintro rfl
  exact htoken hrest

theorem headOf_ne {first token : Token} {tokens : List Token} (hfirst : first ∉ openers)
    (htoken : token ∈ openers) : headOf (first :: tokens) ≠ token := by
  rintro rfl
  exact hfirst htoken

variable {fuel : Nat} {first : Token} {tokens rest : List Token} {Result : Expr → Prop}

theorem reads_nextBindsNot {text : String} (hname : isName first = false) :
    Reads (nextBinds text) [] (first :: rest) (· = false) :=
  (reads_peek _).look fun token hpeek => (reads_peekSecond _).look fun _ _ =>
    reads_pure (by rw [hpeek]; simp [headOf, hname]) _

theorem reads_named (hname : isName first = false)
    (hexpression : Reads (expression fuel) (first :: tokens) rest Result) :
    Reads (named (fuel + 1)) (first :: tokens) rest Result := by
  unfold named
  refine (reads_place _).look fun start _ => ?_
  refine (reads_nextBindsNot hname).look fun _ hbinds => ?_
  rw [hbinds, if_neg (by decide)]
  exact hexpression

theorem reads_spreadOrNamed (hfirst : first ∉ openers) (hname : isName first = false)
    (hexpression : Reads (expression fuel) (first :: tokens) rest Result) :
    Reads (spreadOrNamed (fuel + 2)) (first :: tokens) rest Result := by
  unfold spreadOrNamed
  refine (reads_place _).look fun start _ => ?_
  refine (reads_refuse (headOf_ne hfirst (by decide))).look fun _ hspread => ?_
  rw [hspread, if_neg (by decide)]
  exact reads_named hname hexpression

end Reader

end ScreenFlow.UnitText
