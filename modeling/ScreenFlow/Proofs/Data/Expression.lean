import ScreenFlow.Proofs.Data.Tokens
import ScreenFlow.Proofs.UnitText.Expression

/-!
The tokens of data are read as an expression that spells it, whatever ends the expression.  A number
below zero is a sign in front of its size.
-/

namespace ScreenFlow

open UnitText

namespace Data

/-- The expression is a number, with a sign in front of it when it is negative. -/
def SpellsNumber (isNegative : Bool) (size : Value) (expr : Expr) : Prop :=
  if isNegative then ∃ operand, expr.form = .unary .minus operand ∧ operand.form = .scalar size
  else expr.form = .scalar size

mutual
/-- The expression spells the data. -/
def SpelledBy : Data → Expr → Prop
  | null, expr => expr.form = .scalar .null
  | bool value, expr => expr.form = .scalar (.bool value)
  | whole value, expr => SpellsNumber (value < 0) (.int value.natAbs) expr
  | decimal x, expr =>
      SpellsNumber x.isNegative (.float (.ofDecimal false x.digits x.scale)) expr
  | text value, expr => expr.form = .scalar (.text value)
  | list items, expr => ∃ exprs, expr.form = .list exprs ∧ ItemsSpelledBy items exprs
  | map entries, expr => ∃ found, expr.form = .map found ∧ EntriesSpelledBy entries found

def ItemsSpelledBy : List Data → List Expr → Prop
  | [], [] => True
  | item :: items, expr :: exprs => SpelledBy item expr ∧ ItemsSpelledBy items exprs
  | _, _ => False

def EntriesSpelledBy : List (String × Data) → List MapEntry → Prop
  | [], [] => True
  | (name, item) :: entries, .pair key expr :: found =>
      key.form = .scalar (.text name) ∧ SpelledBy item expr ∧ EntriesSpelledBy entries found
  | _, _ => False
end

end Data

namespace UnitText.Reader

open Data

/-- What a token is that data starts with. -/
structure StartsData (token : Token) : Prop where
  notOpener : token ∉ openers
  notName : isName token = false
  goesOn : endsList token = false

theorem startsData_quoted (literal : Quoted) : StartsData (.quoted literal) :=
  ⟨by simp [openers], rfl, rfl⟩

theorem startsData_number (size : Numeral) : StartsData (.number size) :=
  ⟨by simp [openers], rfl, rfl⟩

theorem startsData_mark {text : String} (hmem : text ∈ ["[", "\x7b", "-"]) :
    StartsData (.mark text) := by
  have hall : ∀ text ∈ ["[", "\x7b", "-"],
      Token.mark text ∉ openers ∧ endsList (.mark text) = false := by
    decide +kernel
  exact ⟨(hall text hmem).1, rfl, (hall text hmem).2⟩

theorem startsData_tokens (data : Data) :
    ∃ first more, data.tokens = first :: more ∧ StartsData first := by
  have hsigned (isNegative : Bool) (size : Numeral) :
      ∃ first more, numberTokens isNegative size = first :: more ∧ StartsData first := by
    cases isNegative with
    | false => exact ⟨_, _, rfl, startsData_number size⟩
    | true => exact ⟨_, _, rfl, startsData_mark (by decide)⟩
  cases data with
  | null => exact ⟨.word "None", [], by rw [tokens], by decide, rfl, by decide⟩
  | bool value =>
      refine ⟨.word (Value.writtenBool value), [], by rw [tokens], ?_⟩
      cases value <;> exact ⟨by decide, rfl, by decide⟩
  | whole value => rw [tokens]; exact hsigned _ _
  | decimal x => rw [tokens]; exact hsigned _ _
  | text value => exact ⟨textToken value, [], by rw [tokens], startsData_quoted _⟩
  | list items => exact ⟨.mark "[", _, by rw [tokens], startsData_mark (by decide)⟩
  | map entries => exact ⟨.mark "\x7b", _, by rw [tokens], startsData_mark (by decide)⟩

theorem StartsData.ne {token : Token} (hstarts : StartsData token) {other : Token}
    (hother : other ∈ openers) : token ≠ other := by
  rintro rfl
  exact hstarts.notOpener hother

/-- More than what data of that many tokens takes. -/
def room (tokens : List Token) : Nat :=
  32 * tokens.length

/-- With enough fuel, the tokens of the data are read as an expression that spells it. -/
def ReadsWell (data : Data) : Prop :=
  ∀ (fuel : Nat) (rest : List Token), room data.tokens ≤ fuel → EndsExpression rest →
    Reads (expression fuel) data.tokens rest data.SpelledBy

theorem ReadsWell.spreadOrNamed {data : Data} (hdata : ReadsWell data) {fuel : Nat}
    {rest : List Token} (hfuel : room data.tokens ≤ fuel) (hrest : EndsExpression rest) :
    Reads (spreadOrNamed (fuel + 2)) data.tokens rest data.SpelledBy := by
  have hexpression := hdata fuel rest hfuel hrest
  obtain ⟨first, more, htokens, hfirst⟩ := startsData_tokens data
  rw [htokens] at hexpression ⊢
  exact reads_spreadOrNamed hfirst.notOpener hfirst.notName hexpression

end UnitText.Reader

end ScreenFlow
