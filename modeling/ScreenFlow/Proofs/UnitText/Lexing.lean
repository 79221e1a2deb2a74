import ScreenFlow.UnitText.Lexer
import Mathlib.Data.List.Basic
import Mathlib.Tactic.IntervalCases

/-!
How the characters inside a line are cut into tokens, whatever stands before and behind them.
-/

namespace ScreenFlow.UnitText

namespace Lexer

/-- So many steps lead from one state to another. -/
inductive Steps : Nat → Lexer → Lexer → Prop
  | refl (lexer : Lexer) : Steps 0 lexer lexer
  | step {count : Nat} {lexer next last : Lexer} (hmore : lexer.rest ≠ [])
      (hstep : lexer.step? = some next) (hsteps : Steps count next last) :
      Steps (count + 1) lexer last

theorem Steps.trans {first second : Nat} {lexer middle last : Lexer}
    (hfirst : Steps first lexer middle) (hsecond : Steps second middle last) :
    Steps (first + second) lexer last := by
  induction hfirst with
  | refl => rwa [Nat.zero_add]
  | step hmore hstep _ ih =>
      rw [Nat.add_right_comm]
      exact .step hmore hstep (ih hsecond)

theorem Steps.run {count : Nat} {lexer last : Lexer} (hsteps : Steps count lexer last)
    (fuel : Nat) : run (count + fuel) lexer = run fuel last := by
  induction hsteps with
  | refl => rw [Nat.zero_add]
  | step hmore hstep _ ih =>
      have hne : ¬(List.isEmpty _ = true) := mt List.isEmpty_iff.mp hmore
      rw [Nat.add_right_comm, Lexer.run, if_neg hne, hstep]
      exact ih

/-- The lexer stands inside a line, in front of a text, with brackets that have to be closed. -/
structure Inside (lexer : Lexer) (brackets text : List Char) : Prop where
  inLine : lexer.atLineStart = false
  brackets_eq : lexer.brackets = brackets
  rest_eq : lexer.rest = text

/-- In front of `rest`, the characters are cut into the tokens.  The brackets that have to be closed
change as given, and there are not more tokens and not more steps than characters. -/
def Cuts (chars rest before after : List Char) (tokens : List Token) : Prop :=
  tokens.length ≤ chars.length ∧ ∀ lexer : Lexer, lexer.Inside before (chars ++ rest) →
    ∃ (count place : Nat) (lexemes : List Lexeme), count ≤ chars.length ∧ lexemes.map Lexeme.token = tokens ∧
      Steps count lexer { lexer with
        rest, place, brackets := after, done := lexemes.reverse ++ lexer.done }

/-- Somewhere in the text no step is possible. -/
def Stops (text brackets : List Char) : Prop :=
  ∀ lexer : Lexer, lexer.Inside brackets text →
    ∃ count last, count ≤ text.length ∧ Steps count lexer last ∧ last.rest ≠ [] ∧ last.step? = none

theorem Cuts.append {first second rest before between after : List Char}
    {tokens more : List Token} (hfirst : Cuts first (second ++ rest) before between tokens)
    (hsecond : Cuts second rest between after more) :
    Cuts (first ++ second) rest before after (tokens ++ more) := by
  refine ⟨?_, fun lexer hinside => ?_⟩
  · simpa only [List.length_append] using Nat.add_le_add hfirst.1 hsecond.1
  obtain ⟨hline, hbrackets, hrest⟩ := hinside
  obtain ⟨count, place, lexemes, hcount, rfl, hsteps⟩ :=
    hfirst.2 lexer ⟨hline, hbrackets, by rw [hrest, List.append_assoc]⟩
  obtain ⟨others, stop, found, hothers, rfl, hon⟩ := hsecond.2
    { lexer with
      rest := second ++ rest, place, brackets := between, done := lexemes.reverse ++ lexer.done }
    ⟨hline, rfl, rfl⟩
  refine ⟨count + others, stop, lexemes ++ found, ?_, List.map_append, ?_⟩
  · rw [List.length_append]
    omega
  · rw [List.reverse_append, List.append_assoc]
    exact hsteps.trans hon

end Lexer

end ScreenFlow.UnitText
