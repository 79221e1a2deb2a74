import ScreenFlow.Proofs.Data.Digits
import ScreenFlow.Proofs.Effect.Failing
import ScreenFlow.Proofs.Scope.Reference
import ScreenFlow.Screen.Selector
import ScreenFlow.Text.Case
import Mathlib.Tactic.SplitIfs

/-!
Selectors read from their texts.  Digits in the bracket are a position; when they spell no number,
the text is an error, while any other text in the bracket makes the whole a field name.  The last
bracket pair ends the text and holds no bracket itself, so that a field may hold brackets, digits
and earlier selectors.
-/

namespace ScreenFlow

namespace Selector

/-- Digits in the bracket of the text spell a number. -/
def IsSpelled (text : String) : Prop :=
  ∀ field selector, cut? (Text.trim text.toList) = some (field, selector) →
    Text.allDigits (Text.trim selector) = true →
      isWordOf (Text.trim selector) ["0", "first", "last", "all", "any"] = true ∨
        (Text.wholeNumber? (Text.trim selector)).isSome = true

theorem selection?_isOk_iff (selector : List Char) :
    (selection? selector).isOk = true ↔
      (Text.allDigits selector = true →
        isWordOf selector ["0", "first", "last", "all", "any"] = true ∨
          (Text.wholeNumber? selector).isSome = true) := by
  have hwords : isWordOf selector ["0", "first", "last", "all", "any"] =
      (isWordOf selector ["0", "first"] || isWordOf selector ["last"] ||
        isWordOf selector ["all"] || isWordOf selector ["any"]) := by
    simp [isWordOf, Bool.or_assoc]
  rw [hwords]
  unfold selection?
  split_ifs with hfirst hlast hall hany hdigits
  · simp [hfirst, Except.isOk, Except.toBool]
  · simp [hlast, Except.isOk, Except.toBool]
  · simp [hall, Except.isOk, Except.toBool]
  · simp [hany, Except.isOk, Except.toBool]
  · cases Text.wholeNumber? selector <;>
      simp [hfirst, hlast, hall, hany, hdigits, Except.isOk, Except.toBool]
  · simp [hdigits, Except.isOk, Except.toBool]

theorem parse_isOk_iff (text : String) : (parse text).isOk = true ↔ IsSpelled text := by
  unfold parse IsSpelled
  dsimp only
  cases hcut : cut? (Text.trim text.toList) with
  | none => simp [Except.isOk, Except.toBool]
  | some pair =>
      obtain ⟨field, selector⟩ := pair
      dsimp only
      rw [isOk_bind fun found => show _ = true by cases found <;> rfl, Bool.and_true,
        selection?_isOk_iff]
      simp

theorem selection?_failsOnly (selector : List Char) :
    FailsOnly (· = .badValue) (selection? selector) := by
  unfold selection?
  repeat' split
  all_goals first
    | exact .ok _
    | exact .error rfl

theorem parse_failsOnly (text : String) : FailsOnly (· = .badValue) (parse text) := by
  unfold parse
  dsimp only
  split
  · exact .ok _
  · refine (selection?_failsOnly _).bind fun _ _ => ?_
    split <;> exact .ok _

/-! The field and what its bracket holds. -/

theorem cut?_of_brackets {field inside : List Char} (hfield : field ≠ [])
    (hline : '\n' ∉ field) (hinside : inside ≠ [])
    (hplain : ∀ c ∈ inside, isBracket c = false) :
    cut? (field ++ '[' :: inside ++ [']']) = some (field, inside) := by
  have hreverse : (field ++ '[' :: inside ++ [']']).reverse =
      ']' :: (inside.reverse ++ '[' :: field.reverse) := by simp
  have hall : ∀ c ∈ inside.reverse, (!isBracket c) = true := by simpa using hplain
  have hbetween : (inside.reverse ++ '[' :: field.reverse).takeWhile (fun c => !isBracket c) =
      inside.reverse := by
    rw [List.takeWhile_append_of_pos hall]
    simp [isBracket]
  have hbefore : (inside.reverse ++ '[' :: field.reverse).dropWhile (fun c => !isBracket c) =
      '[' :: field.reverse := by
    rw [List.dropWhile_append_of_pos hall]
    simp [isBracket]
  simp only [cut?, hreverse, hbetween, hbefore]
  simp [hfield, hline, hinside]

theorem brackets_of_cut? {text field inside : List Char}
    (hcut : cut? text = some (field, inside)) :
    text = field ++ '[' :: inside ++ [']'] ∧ field ≠ [] ∧ '\n' ∉ field ∧ inside ≠ [] ∧
      ∀ c ∈ inside, isBracket c = false := by
  unfold cut? at hcut
  split at hcut
  · next rest hreverse =>
      dsimp only at hcut
      split at hcut
      · next before hbefore =>
          split_ifs at hcut with hrefused
          have hparts := List.takeWhile_append_dropWhile (p := fun c => !isBracket c) (l := rest)
          rw [hbefore] at hparts
          have htext := congrArg List.reverse hreverse
          rw [List.reverse_reverse, ← hparts] at htext
          simp only [Option.some.injEq, Prod.mk.injEq] at hcut
          obtain ⟨rfl, rfl⟩ := hcut
          simp only [Bool.or_eq_true, List.isEmpty_iff, List.contains_eq_mem, decide_eq_true_eq,
            not_or] at hrefused
          refine ⟨by simpa using htext, by simpa using hrefused.1.2, by simpa using hrefused.2,
            by simpa using hrefused.1.1, ?_⟩
          intro c hmem
          simpa using List.mem_takeWhile_imp (List.mem_reverse.mp hmem)
      · cases hcut
  · cases hcut

theorem cut?_eq_some_iff {text field inside : List Char} :
    cut? text = some (field, inside) ↔
      text = field ++ '[' :: inside ++ [']'] ∧ field ≠ [] ∧ '\n' ∉ field ∧ inside ≠ [] ∧
        ∀ c ∈ inside, isBracket c = false := by
  constructor
  · exact brackets_of_cut?
  · rintro ⟨rfl, hfield, hline, hinside, hplain⟩
    exact cut?_of_brackets hfield hline hinside hplain

/-! What stands in the bracket. -/

/-- The words of the grammar. -/
def words : List String := ["0", "first", "last", "all", "any"]

theorem isWordOf_eq_false {selector : List Char} {words : List String}
    (hwords : ∀ word ∈ words, word.toList ≠ Text.lower selector) :
    isWordOf selector words = false := by
  rw [isWordOf, List.contains_eq_mem, decide_eq_false_iff_not]
  intro hmem
  apply hwords _ hmem
  exact String.toList_ofList

theorem selection?_of_not_word {selector : List Char} (hword : isWordOf selector words = false) :
    selection? selector =
      if Text.allDigits selector then
        match Text.wholeNumber? selector with
        | some index => .ok (some (.position index))
        | none => .error .badValue
      else .ok ((Segment.whole? selector).map fun name =>
        .fromVariable (String.ofList (Text.trim name))) := by
  have hnone : ∀ some ⊆ words, isWordOf selector some = false := by
    intro some hsub
    apply isWordOf_eq_false
    intro word hmem heq
    rw [isWordOf, List.contains_eq_mem, decide_eq_false_iff_not, ← heq,
      String.ofList_toList] at hword
    exact hword (hsub hmem)
  rw [selection?, hnone _ (by decide), hnone _ (by decide), hnone _ (by decide),
    hnone _ (by decide)]
  rfl

theorem toLower_of_isDigit {c : Char} (hdigit : c.isDigit = true) : c.toLower = c := by
  have hrange := Text.toNat_of_isDigit hdigit
  unfold Char.toLower
  rw [dif_neg]
  simp only [ge_iff_le, UInt32.le_iff_toNat_le]
  change ¬(65 ≤ c.toNat ∧ c.toNat ≤ 90)
  omega

theorem lower_of_isDigit {digits : List Char} (hdigits : ∀ c ∈ digits, c.isDigit = true) :
    Text.lower digits = digits := by
  have hascii : ∀ c ∈ digits, c.toNat < 128 := by
    intro c hmem
    have hrange := Text.toNat_of_isDigit (hdigits c hmem)
    omega
  have hsame : digits.map Char.toLower = digits.map id :=
    List.map_congr_left fun c hmem => toLower_of_isDigit (hdigits c hmem)
  rw [Text.lower_ascii hascii, hsame, List.map_id]

/-- A number above zero is none of the words of the grammar. -/
theorem selection?_digitChars {index : Nat} (hpos : 0 < index) :
    selection? (digitChars index) =
      if (digitChars index).length ≤ Text.mostDigits then .ok (some (.position index))
      else .error .badValue := by
  have hword : isWordOf (digitChars index) words = false := by
    have hwords : ∀ word ∈ words, word.toList.head? = some '0' ∨
        word.toList.head?.any Char.isDigit = false := by decide
    apply isWordOf_eq_false
    intro word hmem heq
    rw [lower_of_isDigit fun c => isDigit_of_mem_digitChars] at heq
    obtain ⟨first, more, hdigits, hfirst⟩ := digitFirst_digitChars index
    rcases hwords word hmem with hzero | hletter
    · rw [heq] at hzero
      exact head?_digitChars hpos hzero
    · rw [heq, hdigits, List.head?_cons, Option.any_some, hfirst] at hletter
      cases hletter
  rw [selection?_of_not_word hword, if_pos (Text.allDigits_digitChars index),
    Text.wholeNumber?_digitChars]
  by_cases hshort : (digitChars index).length ≤ Text.mostDigits
  · rw [if_pos hshort, if_pos hshort]
  · rw [if_neg hshort, if_neg hshort]

theorem selection?_referenceTo {name : List Char} (hne : name ≠ [])
    (hbraces : ∀ c ∈ name, Segment.isBrace c = false) :
    selection? (Segment.referenceTo name) =
      .ok (some (.fromVariable (String.ofList (Text.trim name)))) := by
  have hword : isWordOf (Segment.referenceTo name) words = false := by
    have hhead : ∀ word ∈ words, word.toList.head? ≠ some '\x7b' := by decide
    apply isWordOf_eq_false
    intro word hmem heq
    apply hhead word hmem
    rw [heq]
    rfl
  have hdigits : Text.allDigits (Segment.referenceTo name) = false := by
    have hbrace : Text.isDigit '\x7b' = false := by decide
    rw [Segment.referenceTo, List.cons_append, Text.allDigits, List.all_cons, hbrace,
      Bool.false_and, Bool.and_false]
  rw [selection?_of_not_word hword, hdigits, Segment.whole?_referenceTo hne hbraces]
  simp

end Selector

/-! Whole texts. -/

/-- What spells the selection in the bracket. -/
inductive Selection.IsWritten : Selection → List Char → Prop
  | first : IsWritten .first "first".toList
  | last : IsWritten .last "last".toList
  | all : IsWritten .all "all".toList
  | any : IsWritten .any "any".toList
  | position {index : Nat} (hpos : 0 < index) : IsWritten (.position index) (digitChars index)
  | fromVariable {name : List Char} (hne : name ≠ []) (htrimmed : Text.trim name = name)
      (hbraces : ∀ c ∈ name, Segment.isBrace c = false)
      (hbrackets : ∀ c ∈ name, Selector.isBracket c = false) :
      IsWritten (.fromVariable (String.ofList name)) (Segment.referenceTo name)

/-- A position does not have too many digits to be read. -/
def Selection.IsShort : Selection → Prop
  | .position index => (digitChars index).length ≤ Text.mostDigits
  | _ => True

instance (selection : Selection) : Decidable selection.IsShort := by
  cases selection <;> unfold Selection.IsShort <;> infer_instance

/-- A name on one line, without blanks at its ends. -/
structure IsFieldName (field : List Char) : Prop where
  filled : field ≠ []
  onOneLine : '\n' ∉ field
  trimmed : Text.trim field = field

/-- Blanks around the parts of a selector text.  Those in front of the bracket stay on its line. -/
structure Padding where
  before : List Char := []
  gap : List Char := []
  left : List Char := []
  right : List Char := []
  after : List Char := []
  blank : ([before, gap, left, right, after].all fun part => part.all Text.isBlank) = true := by
    decide
  onOneLine : '\n' ∉ gap := by decide

theorem Padding.isBlank (padding : Padding) (part : List Char)
    (hpart : part ∈ [padding.before, padding.gap, padding.left, padding.right, padding.after]) :
    ∀ c ∈ part, Text.isBlank c = true :=
  List.all_eq_true.mp (List.all_eq_true.mp padding.blank part hpart)

def Padding.around (padding : Padding) (field inside : List Char) : List Char :=
  padding.before ++
    ((field ++ padding.gap) ++ '[' :: (padding.left ++ inside ++ padding.right) ++ [']']) ++
    padding.after

namespace Selector

theorem selection?_of_isWritten {selection : Selection} {inside : List Char}
    (hwritten : selection.IsWritten inside) :
    selection? inside = if selection.IsShort then .ok (some selection) else .error .badValue := by
  cases hwritten with
  | first => rfl
  | last => rfl
  | all => rfl
  | any => rfl
  | position hpos => exact selection?_digitChars hpos
  | fromVariable hne htrimmed hbraces _ =>
      rw [selection?_referenceTo hne hbraces, htrimmed]
      rfl

theorem isBlank_of_isDigit {c : Char} (hdigit : c.isDigit = true) : Text.isBlank c = false := by
  have hrange := Text.toNat_of_isDigit hdigit
  simp only [Text.isBlank, Bool.or_eq_false_iff, Bool.and_eq_false_iff, decide_eq_false_iff_not,
    beq_eq_false_iff_ne]
  omega

theorem isBracket_eq_false_iff {c : Char} : isBracket c = false ↔ c ≠ '[' ∧ c ≠ ']' := by
  rw [isBracket, Bool.or_eq_false_iff, decide_eq_false_iff_not, decide_eq_false_iff_not]

theorem isBracket_of_isDigit {c : Char} (hdigit : c.isDigit = true) : isBracket c = false := by
  rw [isBracket_eq_false_iff]
  constructor
  · rintro rfl
    cases hdigit
  · rintro rfl
    cases hdigit

theorem isBracket_of_isBlank {c : Char} (hblank : Text.isBlank c = true) :
    isBracket c = false := by
  rw [isBracket_eq_false_iff]
  constructor
  · rintro rfl
    cases hblank
  · rintro rfl
    cases hblank

theorem isBracket_of_all {inside : List Char}
    (hall : (inside.all fun c => !isBracket c) = true) : ∀ c ∈ inside, isBracket c = false := by
  simpa using hall

theorem inside_of_isWritten {selection : Selection} {inside : List Char}
    (hwritten : selection.IsWritten inside) :
    inside ≠ [] ∧ Text.trim inside = inside ∧ ∀ c ∈ inside, isBracket c = false := by
  cases hwritten with
  | first => exact ⟨by decide, by decide, isBracket_of_all (by decide)⟩
  | last => exact ⟨by decide, by decide, isBracket_of_all (by decide)⟩
  | all => exact ⟨by decide, by decide, isBracket_of_all (by decide)⟩
  | any => exact ⟨by decide, by decide, isBracket_of_all (by decide)⟩
  | @position index hpos =>
      have hdigits : ∀ c ∈ digitChars index, c.isDigit = true := fun c => isDigit_of_mem_digitChars
      refine ⟨digitChars_ne_nil index, ?_, fun c hmem => isBracket_of_isDigit (hdigits c hmem)⟩
      apply Text.trim_eq_self
      · intro c hhead
        exact isBlank_of_isDigit (hdigits c (List.mem_of_head? hhead))
      · intro hne
        exact isBlank_of_isDigit (hdigits _ (List.getLast_mem hne))
  | @fromVariable name _ _ _ hbrackets =>
      refine ⟨List.cons_ne_nil _ _, Segment.trim_referenceTo name, ?_⟩
      intro c hmem
      simp only [Segment.referenceTo, List.cons_append, List.mem_cons, List.mem_append] at hmem
      rcases hmem with rfl | rfl | hname | rfl | rfl | hnone
      · rfl
      · rfl
      · exact hbrackets c hname
      · rfl
      · rfl
      · cases hnone

theorem trim_bracketed {field : List Char} (hfield : IsFieldName field) (gap inside : List Char) :
    Text.trim ((field ++ gap) ++ '[' :: inside ++ [']']) =
      (field ++ gap) ++ '[' :: inside ++ [']'] := by
  obtain ⟨first, rest, rfl⟩ := List.exists_cons_of_ne_nil hfield.filled
  apply Text.trim_eq_self
  · intro c hhead
    cases hhead
    apply Text.head?_trim (first :: rest)
    rw [hfield.trimmed]
    rfl
  · intro hne
    rw [List.getLast_append_of_right_ne_nil _ _ (List.cons_ne_nil _ _)]
    rfl

theorem cut?_around {field inside : List Char} (hfield : IsFieldName field) (hinside : inside ≠ [])
    (hplain : ∀ c ∈ inside, isBracket c = false) (padding : Padding) :
    cut? (Text.trim (padding.around field inside)) =
      some (field ++ padding.gap, padding.left ++ inside ++ padding.right) := by
  have hsides : ∀ c ∈ padding.left ++ inside ++ padding.right, isBracket c = false := by
    intro c hmem
    rcases List.mem_append.mp hmem with hmem | hright
    · rcases List.mem_append.mp hmem with hleft | hmem
      · exact isBracket_of_isBlank (padding.isBlank _ (by simp) c hleft)
      · exact hplain c hmem
    · exact isBracket_of_isBlank (padding.isBlank _ (by simp) c hright)
  rw [Padding.around, Text.trim_append (padding.isBlank _ (by simp)) (padding.isBlank _ (by simp)),
    trim_bracketed hfield]
  refine cut?_eq_some_iff.mpr ⟨rfl, ?_, ?_, ?_, hsides⟩
  · simp [hfield.filled]
  · simp [hfield.onOneLine, padding.onOneLine]
  · simp [hinside]

theorem parse_around {field inside : List Char} (hfield : IsFieldName field) (hinside : inside ≠ [])
    (htrimmed : Text.trim inside = inside) (hplain : ∀ c ∈ inside, isBracket c = false)
    (padding : Padding) :
    parse (String.ofList (padding.around field inside)) =
      (selection? inside).map fun found =>
        found.elim ⟨String.ofList (Text.trim (padding.around field inside)), .single⟩
          fun selection => ⟨String.ofList field, selection⟩ := by
  have hfieldTrimmed : Text.trim (field ++ padding.gap) = field := by
    have hright := Text.trim_append (List.forall_mem_nil _)
      (padding.isBlank padding.gap (by simp)) field
    rw [List.nil_append, hfield.trimmed] at hright
    exact hright
  have hinsideTrimmed : Text.trim (padding.left ++ inside ++ padding.right) = inside := by
    rw [Text.trim_append (padding.isBlank _ (by simp)) (padding.isBlank _ (by simp)), htrimmed]
  unfold parse
  rw [String.toList_ofList]
  dsimp only
  rw [cut?_around hfield hinside hplain]
  dsimp only
  rw [hfieldTrimmed, hinsideTrimmed]
  rcases selection? inside with failure | none | selection
  · rfl
  · rfl
  · rfl

/-- The last bracket pair of a text is its selector, whatever the field in front of it holds. -/
theorem parse_written {field inside : List Char} {selection : Selection}
    (hfield : IsFieldName field) (hwritten : selection.IsWritten inside) (padding : Padding) :
    parse (String.ofList (padding.around field inside)) =
      if selection.IsShort then .ok ⟨String.ofList field, selection⟩ else .error .badValue := by
  obtain ⟨hinside, htrimmed, hplain⟩ := inside_of_isWritten hwritten
  rw [parse_around hfield hinside htrimmed hplain, selection?_of_isWritten hwritten]
  split_ifs
  · rfl
  · rfl

theorem isFieldName_squared : IsFieldName "grid[0] rows[2]".toList where
  filled := by decide
  onOneLine := by decide
  trimmed := by decide

theorem parse_writtenNested :
    IsFieldName "grid[0] rows[2]".toList ∧ (Selection.position 12).IsWritten "12".toList ∧
      (Selection.position 12).IsShort ∧
      parse "  grid[0] rows[2] [ 12 ]\n" = .ok ⟨"grid[0] rows[2]", .position 12⟩ := by
  have hwritten : (Selection.position 12).IsWritten "12".toList := .position (by decide)
  refine ⟨isFieldName_squared, hwritten, by decide, ?_⟩
  exact parse_written isFieldName_squared hwritten
    { before := "  ".toList, gap := " ".toList, left := " ".toList, right := " ".toList,
      after := "\n".toList }

/-- A position is not read when it has too many digits. -/
theorem not_parse_longPosition :
    IsFieldName "rows".toList ∧
      (Selection.position (10 ^ 4300)).IsWritten (digitChars (10 ^ 4300)) ∧
      parse (String.ofList (({} : Padding).around "rows".toList (digitChars (10 ^ 4300)))) ≠
        .ok ⟨"rows", .position (10 ^ 4300)⟩ := by
  have hfield : IsFieldName "rows".toList := ⟨by decide, by decide, by decide⟩
  have hpos : ∀ count, 0 < 10 ^ count := fun _ => Nat.pow_pos (by decide)
  have hwritten := Selection.IsWritten.position (hpos 4300)
  refine ⟨hfield, hwritten, ?_⟩
  obtain ⟨hinside, htrimmed, hplain⟩ := inside_of_isWritten hwritten
  have hlong : Text.mostDigits < (digitChars (10 ^ 4300)).length := by
    rw [Text.mostDigits]
    exact lt_length_digitChars_pow (by decide)
  rw [parse_around hfield hinside htrimmed hplain, selection?_digitChars (hpos 4300),
    if_neg (Nat.not_le.mpr hlong)]
  intro hread
  cases hread

end Selector

end ScreenFlow
