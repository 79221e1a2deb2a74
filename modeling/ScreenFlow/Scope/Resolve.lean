import ScreenFlow.Scope
import ScreenFlow.Script.Literal
import ScreenFlow.Text.Class

/-!
Values as expressions of the generated script.  A text that is one reference becomes the expression
it refers to; a text with references among other characters becomes a template literal; a text that
spells a number or a truth value stands as it is; any other text is quoted.
-/

namespace ScreenFlow

namespace Script

def backtick : Char := Char.ofNat 0x60

/-- Plain text inside a template literal. -/
def templateText : List Char → List Char
  | [] => []
  | '$' :: '\x7b' :: rest => '\\' :: '$' :: '\x7b' :: templateText rest
  | c :: rest =>
      if c = '\\' || c = backtick then '\\' :: c :: templateText rest
      else c :: templateText rest

end Script

namespace Scope

def templatePart (scope : Scope) : Segment → List Char
  | .plain text => Script.templateText text
  | .reference name =>
      '$' :: '\x7b' :: (scope.resolveReference (String.ofList name)).toList ++ ['\x7d']

/-- A template literal whose substitutions are the resolved references. -/
def templateLiteral (scope : Scope) (segments : List Segment) : String :=
  String.ofList (Script.backtick :: segments.flatMap scope.templatePart ++ [Script.backtick])

/-- A decimal number, possibly negated and with a fraction. -/
def isNumberShape (text : List Char) : Bool :=
  let unsigned := if text.head? = some '-' then text.drop 1 else text
  let fraction := unsigned.dropWhile Text.isDecimal
  unsigned.head?.any Text.isDecimal &&
    match fraction with
    | [] => true
    | '.' :: digits => !digits.isEmpty && digits.all Text.isDecimal
    | _ => false

def isLiteralShape (text : String) : Bool :=
  text == "true" || text == "false" || isNumberShape text.toList

def resolveText (scope : Scope) (text : String) : String :=
  let bare := trimmed text
  match Segment.whole? bare.toList with
  | some name => scope.resolveReference (String.ofList name)
  | none =>
      let segments := Segment.scan text.toList
      if segments.any Segment.isReference then scope.templateLiteral segments
      else if isQualified text || isLiteralShape bare then bare
      else Script.quote text

mutual
def resolve (scope : Scope) : Value → String
  | .text value =>
      if (Placeholder.ofMarker? value).isSome then "undefined" else scope.resolveText value
  | .list items => Script.bracketed (scope.resolveItems items)
  | .tuple items => Script.bracketed (scope.resolveItems items)
  | .map entries => Script.braced (scope.resolveEntries entries)
  | value => Script.literal value

def resolveItems (scope : Scope) : List Value → List String
  | [] => []
  | item :: items => scope.resolve item :: scope.resolveItems items

def resolveEntries (scope : Scope) : List (Key × Value) → List String
  | [] => []
  | (name, value) :: rest =>
      (Script.key name.text ++ ": " ++ scope.resolve value) :: scope.resolveEntries rest
end

theorem resolveItems_eq_map (scope : Scope) (items : List Value) :
    scope.resolveItems items = items.map scope.resolve := by
  induction items with
  | nil => rfl
  | cons item items ih => simp [resolveItems, ih]

theorem resolveEntries_eq_map (scope : Scope) (entries : Entries) :
    scope.resolveEntries entries =
      entries.map fun entry => Script.key entry.1.text ++ ": " ++ scope.resolve entry.2 := by
  induction entries with
  | nil => rfl
  | cons entry rest ih => simp [resolveEntries, ih]

end Scope

end ScreenFlow
