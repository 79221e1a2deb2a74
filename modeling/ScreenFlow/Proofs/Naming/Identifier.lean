import ScreenFlow.Proofs.Naming.Words
import ScreenFlow.Script.Quoted

/-!
The name of an action as an identifier of the generated script.  It is spelled from the status and
the previous state as they are.  Separators are left out, all other characters are kept, so that the
name is no identifier when one of them can stand in none, when the first of them is a digit, or when
a status by itself is a reserved word.
-/

namespace ScreenFlow

open Naming Text

namespace Script

/-- Words that no identifier may be. -/
def reservedWords : List String := [
  "await", "break", "case", "catch", "class", "const", "continue", "debugger", "default", "delete",
  "do", "else", "enum", "export", "extends", "false", "finally", "for", "function", "if", "import",
  "in", "instanceof", "new", "null", "return", "super", "switch", "this", "throw", "true", "try",
  "typeof", "var", "void", "while", "with", "yield"]

section Identifiers

/- Which characters beyond ASCII can stand in an identifier, at its start or behind. -/
variable (others : Bool → Char → Bool)

def isIdentifierStart (c : Char) : Bool :=
  if c.toNat < 128 then isNameStart c else others true c

def isIdentifierPart (c : Char) : Bool :=
  if c.toNat < 128 then isNamePart c else others false c

/-- The characters are those of an identifier; there may be none. -/
structure IsSpelled (name : List Char) : Prop where
  starts : ∀ c ∈ name.head?, isIdentifierStart others c = true
  goesOn : ∀ c ∈ name.tail, isIdentifierPart others c = true

structure IsIdentifier (name : String) : Prop where
  filled : name ≠ ""
  spelled : IsSpelled others name.toList
  free : name ∉ reservedWords

variable {others}

theorem isSpelled_append_iff {first : List Char} (hne : first ≠ []) (rest : List Char) :
    IsSpelled others (first ++ rest) ↔
      IsSpelled others first ∧ ∀ c ∈ rest, isIdentifierPart others c = true := by
  cases first with
  | nil => exact absurd rfl hne
  | cons c first =>
      constructor
      · rintro ⟨hstarts, hgoesOn⟩
        obtain ⟨hfirst, hrest⟩ := List.forall_mem_append.mp hgoesOn
        exact ⟨⟨hstarts, hfirst⟩, hrest⟩
      · rintro ⟨⟨hstarts, hfirst⟩, hrest⟩
        exact ⟨hstarts, List.forall_mem_append.mpr ⟨hfirst, hrest⟩⟩

end Identifiers

end Script

open Script

/-! The spelled name. -/

/-- The status and the previous state that a function can be named after.  What counts are the runs
between separators, each with a capital first letter; the first run of the status has a small
one. -/
structure NamesFunction (others : Bool → Char → Bool) (status : String)
    (previous : Option String) : Prop where
  first : ∀ run ∈ (runs status.toList).head?, IsSpelled others (lowerFirst (upperFirst run))
  later : ∀ run ∈ (runs status.toList).tail, ∀ c ∈ upperFirst run, isIdentifierPart others c = true
  before : ∀ state ∈ previous, ∀ run ∈ runs state.toList, ∀ c ∈ upperFirst run,
    isIdentifierPart others c = true
  alone : previous.filter (· != "") = none →
    runs status.toList ≠ [] ∧ camelCase status ∉ reservedWords

variable {others : Bool → Char → Bool}

theorem forall_mem_flatMap_upperFirst_iff {P : Char → Prop} (words : List (List Char)) :
    (∀ c ∈ words.flatMap upperFirst, P c) ↔ ∀ word ∈ words, ∀ c ∈ upperFirst word, P c := by
  simp only [List.mem_flatMap, forall_exists_index, and_imp]
  exact ⟨fun hall word hword c hc => hall c word hword hc,
    fun hall c word hword hc => hall word hword c hc⟩

theorem isSpelled_camel_iff (text : List Char) :
    IsSpelled others (camel text) ↔
      (∀ run ∈ (runs text).head?, IsSpelled others (lowerFirst (upperFirst run))) ∧
        ∀ run ∈ (runs text).tail, ∀ c ∈ upperFirst run, isIdentifierPart others c = true := by
  cases hruns : runs text with
  | nil =>
      rw [camel_eq_nil_of_runs hruns]
      exact iff_of_true ⟨by simp, by simp⟩ ⟨by simp, by simp⟩
  | cons first rest =>
      have hfirst : lowerFirst (upperFirst first) ≠ [] := lowerFirst_ne_nil
        (upperFirst_ne_nil (ne_nil_of_mem_runs (hruns ▸ List.mem_cons_self)))
      rw [camel_eq_of_runs hruns, isSpelled_append_iff hfirst, forall_mem_flatMap_upperFirst_iff]
      simp

theorem isSpelled_via_iff (first rest : List Char) :
    IsSpelled others (first ++ 'V' :: 'i' :: 'a' :: rest) ↔
      IsSpelled others first ∧ ∀ c ∈ rest, isIdentifierPart others c = true := by
  have hvia : (∀ c ∈ 'V' :: 'i' :: 'a' :: rest, isIdentifierPart others c = true) ↔
      ∀ c ∈ rest, isIdentifierPart others c = true := by
    rw [List.forall_mem_cons, List.forall_mem_cons, List.forall_mem_cons]
    exact ⟨fun hall => hall.2.2.2, fun hrest => ⟨rfl, rfl, rfl, hrest⟩⟩
  cases first with
  | nil =>
      constructor
      · exact fun hspelled => ⟨⟨by simp, by simp⟩,
          hvia.mp (List.forall_mem_cons.mpr ⟨rfl, hspelled.goesOn⟩)⟩
      · exact fun hspelled => ⟨by rintro c ⟨⟩; rfl,
          (List.forall_mem_cons.mp (hvia.mpr hspelled.2)).2⟩
  | cons c first => rw [isSpelled_append_iff (List.cons_ne_nil c first), hvia]

theorem not_reserved_of_via (first rest : String) : first ++ "Via" ++ rest ∉ reservedWords := by
  have hcapital : ∀ word ∈ reservedWords, 'V' ∉ word.toList := by decide
  exact fun hmem => hcapital _ hmem (by simp)

theorem camelCase_eq_empty_iff (text : String) : camelCase text = "" ↔ runs text.toList = [] := by
  rw [camelCase, String.ofList_eq_empty_iff]
  cases hruns : runs text.toList with
  | nil => exact iff_of_true (camel_eq_nil_of_runs hruns) rfl
  | cons first rest =>
      refine iff_of_false ?_ (List.cons_ne_nil first rest)
      rw [camel_eq_of_runs hruns]
      exact List.append_ne_nil_of_left_ne_nil (lowerFirst_ne_nil
        (upperFirst_ne_nil (ne_nil_of_mem_runs (hruns ▸ List.mem_cons_self)))) _

/-- The action is named after the status and the previous state alone when no name overrides. -/
theorem isIdentifier_actionName_iff (status : String) (previous : Option String) :
    Script.IsIdentifier others (actionName status previous none) ↔
      NamesFunction others status previous := by
  unfold actionName
  cases hprevious : previous.filter (· != "") with
  | some state =>
      obtain ⟨rfl, hstate⟩ := Option.filter_eq_some_iff.mp hprevious
      have hchars : (camelCase status ++ "Via" ++ pascalCase state).toList =
          camel status.toList ++ 'V' :: 'i' :: 'a' :: pascal state.toList := by
        simp [camelCase, pascalCase]
      constructor
      · rintro ⟨-, hspelled, -⟩
        rw [hchars, isSpelled_via_iff, isSpelled_camel_iff, pascal_eq_flatMap_runs,
          forall_mem_flatMap_upperFirst_iff] at hspelled
        obtain ⟨⟨hfirst, hlater⟩, hbefore⟩ := hspelled
        refine ⟨hfirst, hlater, ?_, fun hnone => ?_⟩
        · rintro _ ⟨⟩
          exact hbefore
        · rw [hprevious] at hnone
          cases hnone
      · rintro ⟨hfirst, hlater, hbefore, -⟩
        refine ⟨fun hempty => ?_, ?_, not_reserved_of_via _ _⟩
        · exact absurd (congrArg String.toList hempty) (by rw [hchars]; simp)
        · rw [hchars, isSpelled_via_iff, isSpelled_camel_iff, pascal_eq_flatMap_runs,
            forall_mem_flatMap_upperFirst_iff]
          exact ⟨⟨hfirst, hlater⟩, hbefore state rfl⟩
  | none =>
      have hbefore : ∀ state ∈ previous, runs state.toList = [] := by
        rintro state rfl
        have hempty : state = "" := by simpa using hprevious
        rw [hempty]
        rfl
      have hchars : (camelCase status).toList = camel status.toList := by simp [camelCase]
      constructor
      · rintro ⟨hfilled, hspelled, hfree⟩
        rw [Option.filter_none] at hfilled hspelled hfree
        dsimp only at hfilled hspelled hfree
        rw [hchars, isSpelled_camel_iff] at hspelled
        exact ⟨hspelled.1, hspelled.2, fun state hstate => by simp [hbefore state hstate],
          fun _ => ⟨fun hruns => hfilled ((camelCase_eq_empty_iff status).mpr hruns), hfree⟩⟩
      · rintro ⟨hfirst, hlater, -, halone⟩
        obtain ⟨hruns, hfree⟩ := halone hprevious
        refine ⟨fun hempty => hruns ((camelCase_eq_empty_iff status).mp hempty), ?_, hfree⟩
        rw [Option.filter_none]
        dsimp only
        rw [hchars, isSpelled_camel_iff]
        exact ⟨hfirst, hlater⟩

/-! Texts of ASCII characters. -/

section Ascii

variable {c : Char}

theorem isIdentifierPart_of_ascii (hascii : c.toNat < 128) :
    isIdentifierPart others c = Script.isNamePart c := by
  rw [isIdentifierPart, if_pos hascii]

theorem isNamePart_toUpper (hascii : c.toNat < 128) :
    Script.isNamePart c.toUpper = Script.isNamePart c :=
  of_ascii (P := fun c => Script.isNamePart c.toUpper = Script.isNamePart c) (by decide) hascii

theorem isNameStart_toLower (hascii : c.toNat < 128) :
    Script.isNameStart c.toLower = Script.isNameStart c :=
  of_ascii (P := fun c => Script.isNameStart c.toLower = Script.isNameStart c) (by decide) hascii

theorem forall_mem_upperFirst_iff {run : List Char} (hascii : ∀ c ∈ run, c.toNat < 128) :
    (∀ c ∈ upperFirst run, isIdentifierPart others c = true) ↔
      ∀ c ∈ run, Script.isNamePart c = true := by
  cases run with
  | nil => exact iff_of_true (by simp [upperFirst]) (by simp)
  | cons c rest =>
      obtain ⟨hc, hrest⟩ := List.forall_mem_cons.mp hascii
      rw [upperFirst_cons_ascii hc, List.forall_mem_cons, List.forall_mem_cons,
        isIdentifierPart_of_ascii (toNat_toUpper_lt hc), isNamePart_toUpper hc]
      refine and_congr_right fun _ => forall₂_congr fun d hd => ?_
      rw [isIdentifierPart_of_ascii (hrest d hd)]

theorem isSpelled_lowerFirst_upperFirst_iff {run : List Char}
    (hascii : ∀ c ∈ run, c.toNat < 128) :
    IsSpelled others (lowerFirst (upperFirst run)) ↔
      (∀ c ∈ run.head?, Script.isNameStart c = true) ∧
        ∀ c ∈ run.tail, Script.isNamePart c = true := by
  cases run with
  | nil =>
      exact iff_of_true ⟨by simp [upperFirst, lowerFirst], by simp [upperFirst, lowerFirst]⟩
        ⟨by simp, by simp⟩
  | cons c rest =>
      obtain ⟨hc, hrest⟩ := List.forall_mem_cons.mp hascii
      have hcased : lowerFirst (upperFirst (c :: rest)) = c.toLower :: rest := by
        rw [upperFirst_cons_ascii hc, lowerFirst_cons_ascii (toNat_toUpper_lt hc),
          toLower_toUpper]
      have hstart : isIdentifierStart others c.toLower = Script.isNameStart c := by
        rw [isIdentifierStart, if_pos (toNat_toLower_lt hc), isNameStart_toLower hc]
      have hparts : (∀ d ∈ rest, isIdentifierPart others d = true) ↔
          ∀ d ∈ rest, Script.isNamePart d = true :=
        forall₂_congr fun d hd => by rw [isIdentifierPart_of_ascii (hrest d hd)]
      rw [hcased]
      constructor
      · rintro ⟨hfirst, hlater⟩
        exact ⟨by rintro _ ⟨⟩; exact hstart ▸ hfirst _ rfl, hparts.mp hlater⟩
      · rintro ⟨hfirst, hlater⟩
        exact ⟨by rintro _ ⟨⟩; exact hstart.trans (hfirst c rfl), hparts.mpr hlater⟩

/-- On ASCII the case of letters does not matter, and nothing has to be known of other
characters. -/
theorem namesFunction_iff_of_ascii {status : String} {previous : Option String}
    (hstatus : ∀ c ∈ status.toList, c.toNat < 128)
    (hprevious : ∀ state ∈ previous, ∀ c ∈ state.toList, c.toNat < 128) :
    NamesFunction others status previous ↔
      (∀ run ∈ (runs status.toList).head?, (∀ c ∈ run.head?, Script.isNameStart c = true) ∧
          ∀ c ∈ run.tail, Script.isNamePart c = true) ∧
        (∀ run ∈ (runs status.toList).tail, ∀ c ∈ run, Script.isNamePart c = true) ∧
        (∀ state ∈ previous, ∀ run ∈ runs state.toList, ∀ c ∈ run, Script.isNamePart c = true) ∧
        (previous.filter (· != "") = none →
          runs status.toList ≠ [] ∧ camelCase status ∉ reservedWords) := by
  have hfirst : ∀ run ∈ (runs status.toList).head?,
      (IsSpelled others (lowerFirst (upperFirst run)) ↔
        (∀ c ∈ run.head?, Script.isNameStart c = true) ∧
          ∀ c ∈ run.tail, Script.isNamePart c = true) := fun run hrun =>
    isSpelled_lowerFirst_upperFirst_iff
      (isRun_of_mem_runs hstatus (List.mem_of_mem_head? hrun)).ascii
  have hlater : ∀ run ∈ (runs status.toList).tail,
      ((∀ c ∈ upperFirst run, isIdentifierPart others c = true) ↔
        ∀ c ∈ run, Script.isNamePart c = true) := fun run hrun =>
    forall_mem_upperFirst_iff (isRun_of_mem_runs hstatus (List.mem_of_mem_tail hrun)).ascii
  have hbefore : ∀ state ∈ previous, ∀ run ∈ runs state.toList,
      ((∀ c ∈ upperFirst run, isIdentifierPart others c = true) ↔
        ∀ c ∈ run, Script.isNamePart c = true) := fun state hstate run hrun =>
    forall_mem_upperFirst_iff (isRun_of_mem_runs (hprevious state hstate) hrun).ascii
  rw [← forall₂_congr hfirst, ← forall₂_congr hlater,
    ← forall₂_congr fun state hstate => forall₂_congr (hbefore state hstate)]
  exact ⟨fun ⟨first, later, before, alone⟩ => ⟨first, later, before, alone⟩,
    fun ⟨first, later, before, alone⟩ => ⟨first, later, before, alone⟩⟩

end Ascii

end ScreenFlow
