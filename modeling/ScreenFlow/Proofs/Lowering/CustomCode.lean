import ScreenFlow.Proofs.Lowering.Mode
import ScreenFlow.Proofs.Text.Lines

/-!
Custom code in the generated test.  The code of a block is cut into lines, indented when the block
is a test step, and joined again.  It comes out as it was read from a file, without the blanks at
its end, unless it holds a line boundary other than a line feed or a carriage return: each of these
is made a line feed, inside a string literal as well.
-/

namespace ScreenFlow

namespace Lowering

/-- The code of the block is the body of a test step. -/
def isTestStep (block : Block) (place : Place) : Bool :=
  (Block.filled block.testStepName).isSome && block.wrapInTestStep && !place.isNative

def indented (line : String) : String :=
  if line = "" then line else indent ++ line

/-- One indent is taken away where there is one. -/
def withoutIndent (line : String) : String :=
  if startsWith line indent then String.ofList (line.toList.drop indent.length) else line

/-- The code that the lines of the block show: all of them, or those between the first and the last
of a test step, without their indent. -/
def shownCode (block : Block) (place : Place) (lines : List String) : String :=
  "\n".intercalate
    (if isTestStep block place then lines.tail.dropLast.map withoutIndent else lines)

theorem withoutIndent_indented (line : String) : withoutIndent (indented line) = line := by
  unfold withoutIndent indented
  by_cases hline : line = ""
  · subst hline
    rfl
  · have hstarts : startsWith (indent ++ line) indent = true := by
      rw [startsWith, List.isPrefixOf_iff_prefix, String.toList_append]
      exact List.prefix_append _ _
    rw [if_neg hline, if_pos hstarts, String.toList_append, ← String.length_toList,
      List.drop_left, String.ofList_toList]

theorem withoutIndent_comp_indented : withoutIndent ∘ indented = id :=
  funext withoutIndent_indented

theorem codeLines_eq {block : Block} (hcode : trimmedRight block.sourceCode ≠ "") (place : Place) :
    if isTestStep block place then ∃ opening closing,
      codeLines block place =
        opening :: (linesOf (trimmedRight block.sourceCode)).map indented ++ [closing]
    else codeLines block place = linesOf (trimmedRight block.sourceCode) := by
  unfold codeLines isTestStep
  dsimp only
  rw [if_neg hcode]
  cases Block.filled block.testStepName with
  | none => rfl
  | some name =>
      simp only [Option.isSome_some, Bool.true_and]
      cases block.wrapInTestStep && !place.isNative with
      | true => exact ⟨"await test.step(" ++ Script.quote name ++ ", async () => \x7b", "\x7d);", rfl⟩
      | false => rfl

theorem start_isOk_of_kindOf {block : Block} (hkind : kindOf block = "custom_code") :
    ∃ base, start block = .ok base := by
  have hcall : block.type ≠ BlockType.functionCall := fun htype => by
    rw [kindOf_of_type htype rfl] at hkind
    exact absurd hkind (by decide)
  have hui : block.type ≠ BlockType.uiAssertion := fun htype => by
    rw [kindOf_of_type htype rfl] at hkind
    exact absurd hkind (by decide)
  unfold start Block.storedNames
  rw [if_neg hcall, if_neg hui]
  exact ⟨_, rfl⟩

theorem toList_joined_linesOf (text : String) :
    ("\n".intercalate (linesOf (trimmedRight text))).toList =
      Text.feedLines (trimmedRight text).toList := by
  have hopen : Text.IsOpenEnded (trimmedRight text).toList := by
    rw [trimmedRight, String.toList_ofList]
    exact Text.isOpenEnded_trimRight text.toList
  have hid : String.toList ∘ String.ofList = id := funext fun _ => String.toList_ofList
  have hfeed : "\n".toList = ['\n'] := by decide
  rw [String.toList_intercalate, linesOf, List.map_map, hid, List.map_id, hfeed,
    Text.intercalate_splitLines hopen]

/-- Custom code that is not blank is lowered in every mode and at every place, and its lines show it
with a line feed for each line boundary. -/
theorem shownCode_eq_feedLines (block : Block) (hkind : kindOf block = "custom_code")
    (hcode : isBlankText block.sourceCode = false) (mode : EmissionMode) (place : Place)
    (ledger : Ledger) :
    ∃ lowered, (Lowering.block mode block place).run ledger = (.ok lowered, ledger) ∧
      (shownCode block place lowered.lines).toList =
        Text.feedLines (trimmedRight block.sourceCode).toList := by
  have hfilled : trimmedRight block.sourceCode ≠ "" := by
    intro hempty
    have hnil : Text.trimRight block.sourceCode.toList = [] := by
      simpa [trimmedRight] using hempty
    rw [isBlankText, Text.allBlank, List.all_eq_true.mpr (List.rdropWhile_eq_nil_iff.mp hnil)]
      at hcode
    cases hcode
  obtain ⟨base, hstart⟩ := start_isOk_of_kindOf hkind
  have hlines := codeLines_eq hfilled place
  have hshown : shownCode block place (codeLines block place) =
      "\n".intercalate (linesOf (trimmedRight block.sourceCode)) := by
    unfold shownCode
    split_ifs at hlines ⊢ with hstep
    · obtain ⟨opening, closing, hlines⟩ := hlines
      rw [hlines, List.cons_append, List.tail_cons, List.dropLast_concat, List.map_map,
        withoutIndent_comp_indented, List.map_id]
    · rw [hlines]
  refine ⟨complete base { lines := codeLines block place }, ?_, ?_⟩
  · rw [block_eq, if_neg (by rw [hkind]; decide), if_pos hkind, customCode_eq, hstart]
    rfl
  · rw [complete, hshown, toList_joined_linesOf]

/-- The lines of custom code show the source as read from a file, without the blanks at its end,
exactly when line feeds and carriage returns are its only line boundaries; each other boundary is a
line feed in what they show. -/
theorem customCode_shown_iff (block : Block) (hkind : kindOf block = "custom_code")
    (hcode : isBlankText block.sourceCode = false) (mode : EmissionMode) (place : Place)
    (ledger : Ledger) :
    ∃ lowered, (Lowering.block mode block place).run ledger = (.ok lowered, ledger) ∧
      (shownCode block place lowered.lines).toList =
        Text.feedLines (trimmedRight block.sourceCode).toList ∧
      ((shownCode block place lowered.lines).toList =
          Text.unifyLineEnds (trimmedRight block.sourceCode).toList ↔
        Text.HasPlainEnds (trimmedRight block.sourceCode).toList) := by
  obtain ⟨lowered, hrun, hshown⟩ := shownCode_eq_feedLines block hkind hcode mode place ledger
  exact ⟨lowered, hrun, hshown, by rw [hshown, Text.feedLines_eq_unifyLineEnds_iff]⟩

/-- A string literal that holds the character for the next line, as a test step of its own. -/
def nextLineCode : Block where
  type := "custom-code"
  code := some "const s = 'a\u0085b';"
  testStepName := some "Text"

def browserPlace : Place where
  isNative := false
  object := "page"
  scope := []
  position := 0

theorem plainCode_shown :
    ∃ lowered, (Lowering.block .raw { nextLineCode with code := some "a();\r\nb();\n" }
        browserPlace).run {} = (.ok lowered, {}) ∧
      (shownCode nextLineCode browserPlace lowered.lines).toList = "a();\nb();".toList := by
  obtain ⟨lowered, hrun, hshown, -⟩ := customCode_shown_iff
    { nextLineCode with code := some "a();\r\nb();\n" } (by decide) (by decide) .raw browserPlace {}
  exact ⟨lowered, hrun, hshown.trans (by decide)⟩

theorem not_customCode_shown_nextLine :
    ¬ ∀ (block : Block) (mode : EmissionMode) (place : Place) (ledger after : Ledger)
      (lowered : LoweredBlock), kindOf block = "custom_code" →
      isBlankText block.sourceCode = false →
      (Lowering.block mode block place).run ledger = (.ok lowered, after) →
      (shownCode block place lowered.lines).toList =
        Text.unifyLineEnds (trimmedRight block.sourceCode).toList := by
  intro hall
  obtain ⟨lowered, hrun, hshown⟩ := shownCode_eq_feedLines nextLineCode (by decide)
    (by decide) .structured browserPlace {}
  have hread :=
    hall nextLineCode .structured browserPlace {} {} lowered (by decide) (by decide) hrun
  exact absurd (hshown.symm.trans hread) (by decide)

end Lowering

end ScreenFlow
