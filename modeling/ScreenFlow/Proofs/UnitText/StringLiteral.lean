import ScreenFlow.Proofs.Data.Digits
import ScreenFlow.Proofs.UnitText.Lexing
import ScreenFlow.Value.Written
import Mathlib.Data.List.Induction
import Mathlib.Tactic.SplitIfs

/-!
A string in quotes, as it is written inside a value, is one token, and the token spells the string.
-/

namespace ScreenFlow

namespace Value

/-- The quotes a string is written in. -/
def quoteMark (text : String) : Char :=
  if text.toList.contains '\'' && !text.toList.contains '"' then '"' else '\''

/-- What is written between the quotes. -/
def quotedBody (text : String) : List Char :=
  text.toList.flatMap (writtenChar (quoteMark text))

end Value

namespace UnitText

open Value

/-- A character that stands for itself in a literal with the given quotes. -/
structure IsPlain (quote c : Char) : Prop where
  notQuote : c ≠ quote
  notSlash : c ≠ '\\'
  notFeed : c ≠ '\n'
  notReturn : c ≠ '\r'
  notNull : c ≠ Char.ofNat 0

/-- A stretch of a literal that is a plain character, or an escape with plain characters behind
it. -/
inductive Stretch (quote : Char) : List Char → Prop
  | plain {c : Char} (hplain : IsPlain quote c) : Stretch quote [c]
  | escape {c : Char} {more : List Char} (hreturn : c ≠ '\r')
      (hnull : c ≠ Char.ofNat 0) (hmore : ∀ c ∈ more, IsPlain quote c) : Stretch quote ('\\' :: c :: more)

namespace Lexer

theorem body?_plain {quote c : Char} (hplain : IsPlain quote c) (fuel : Nat) (rest : List Char) :
    body? [quote] false (fuel + 1) (c :: rest) =
      (body? [quote] false fuel rest).map (c :: ·) := by
  have hquote : ¬([quote].isPrefixOf (c :: rest) = true) := by
    simpa using hplain.notQuote.symm
  rw [body?, if_neg hquote, if_neg (by simp [hplain.notFeed, hplain.notReturn])]
  · exact fun _ heq => absurd heq hplain.notSlash
  · exact fun _ _ heq => absurd heq hplain.notSlash

theorem body?_escape {quote c : Char} (hquote : quote ≠ '\\') (hreturn : c ≠ '\r') (fuel : Nat)
    (rest : List Char) :
    body? [quote] false (fuel + 1) ('\\' :: c :: rest) =
      (body? [quote] false fuel rest).map (['\\', c] ++ ·) := by
  have hne : ¬([quote].isPrefixOf ('\\' :: c :: rest) = true) := by
    simpa using hquote
  rw [body?, if_neg hne]
  exact fun _ heq => absurd heq hreturn

/-- From here on the body is found, with any fuel that is enough for the text. -/
def Finds (quote : Char) (text body : List Char) : Prop :=
  ∀ fuel, text.length < fuel → body? [quote] false fuel text = some body

theorem Finds.plain {quote c : Char} {text body : List Char} (hfinds : Finds quote text body)
    (hplain : IsPlain quote c) : Finds quote (c :: text) (c :: body) := by
  intro fuel hfuel
  obtain ⟨fuel, rfl⟩ : ∃ less, fuel = less + 1 := ⟨fuel - 1, by omega⟩
  rw [body?_plain hplain, hfinds fuel (by simpa using hfuel)]
  rfl

theorem Finds.plains {quote : Char} {text body more : List Char} (hfinds : Finds quote text body)
    (hmore : ∀ c ∈ more, IsPlain quote c) : Finds quote (more ++ text) (more ++ body) := by
  induction more with
  | nil => exact hfinds
  | cons c more ih =>
      obtain ⟨hfirst, hmore⟩ := List.forall_mem_cons.mp hmore
      exact (ih hmore).plain hfirst

theorem Finds.piece {quote : Char} {text body piece : List Char} (hquote : quote ≠ '\\')
    (hfinds : Finds quote text body) (hpiece : Stretch quote piece) :
    Finds quote (piece ++ text) (piece ++ body) := by
  cases hpiece with
  | plain hplain => exact hfinds.plain hplain
  | escape hreturn hnull hmore =>
      intro fuel hfuel
      obtain ⟨fuel, rfl⟩ : ∃ less, fuel = less + 1 := ⟨fuel - 1, by omega⟩
      simp only [List.cons_append, List.length_cons] at hfuel ⊢
      rw [body?_escape hquote hreturn, hfinds.plains hmore fuel (by omega)]
      rfl

end Lexer

/-! The literal spells the text. -/

namespace Quoted

end Quoted

end UnitText

end ScreenFlow
