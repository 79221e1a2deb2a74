import ScreenFlow.Proofs.Lowering.ReadAlike
import Mathlib.Algebra.BigOperators.Group.List.Basic

/-!
Code and comments of a plan.  The label of a block stands in a comment above the lines of the block,
as it is.  Screens that differ in their labels only have the same code as long as every line of such
a comment is one; a label with a line break in it need not leave its second line in the comment.
-/

namespace ScreenFlow

/-- The lines that the emitted lines fill in a file, whichever characters end a line there. -/
def physicalLines (endsLine : Char → Bool) (lines : List String) : List (List Char) :=
  ("\n".intercalate lines).toList.splitOnP endsLine

def isComment (line : List Char) : Bool :=
  ['/', '/'].isPrefixOf line

/-- The lines in the file that are no comments. -/
def codeOf (endsLine : Char → Bool) (lines : List String) : List (List Char) :=
  (physicalLines endsLine lines).filter (!isComment ·)

namespace EmissionPlan

/-- What a plan has besides comments. -/
def code (endsLine : Char → Bool) (plan : EmissionPlan) : List (List Char) :=
  codeOf endsLine plan.lines

/-- What a plan has besides comments, without the labels of its blocks. -/
def statements (endsLine : Char → Bool) (plan : EmissionPlan) : List (List Char) :=
  codeOf endsLine (plan.blocks.flatMap LoweredBlock.lines)

end EmissionPlan

/-- The label does not get out of its comment. -/
def StaysComment (endsLine : Char → Bool) (label : String) : Prop :=
  ∀ line ∈ physicalLines endsLine ["// " ++ label], isComment line = true

/-- Whatever labels the plan shows stay in their comments. -/
def EmissionPlan.LabelsCommented (endsLine : Char → Bool) (plan : EmissionPlan) : Prop :=
  ∀ block ∈ plan.blocks, block.lines ≠ [] → StaysComment endsLine block.label

/-! The lines of a file. -/

variable {endsLine : Char → Bool}

theorem physicalLines_singleton (line : String) :
    physicalLines endsLine [line] = line.toList.splitOnP endsLine := by
  unfold physicalLines
  rw [String.intercalate_singleton]

theorem codeOf_cons (hbreak : endsLine '\n' = true) (line : String) {rest : List String}
    (hrest : rest ≠ []) :
    codeOf endsLine (line :: rest) = codeOf endsLine [line] ++ codeOf endsLine rest := by
  obtain ⟨next, others, rfl⟩ := List.exists_cons_of_ne_nil hrest
  unfold codeOf
  rw [← List.filter_append, physicalLines_singleton]
  unfold physicalLines
  rw [String.intercalate_cons_cons, String.toList_append, String.toList_append, List.append_assoc]
  exact congrArg _ (List.splitOnP_append_cons _ _ hbreak)

/-- Every line has its code to itself.  Without lines there is an empty text, which is one line. -/
theorem codeOf_eq_flatMap (hbreak : endsLine '\n' = true) {lines : List String}
    (hlines : lines ≠ []) :
    codeOf endsLine lines = lines.flatMap fun line => codeOf endsLine [line] := by
  induction lines with
  | nil => exact absurd rfl hlines
  | cons line rest ih =>
      rcases eq_or_ne rest [] with rfl | hrest
      · simp
      · rw [codeOf_cons hbreak line hrest, List.flatMap_cons, ih hrest]

theorem codeOf_label_eq_nil_iff {label : String} :
    codeOf endsLine ["// " ++ label] = [] ↔ StaysComment endsLine label := by
  simp [codeOf, StaysComment, List.filter_eq_nil_iff]

/-- On one line, a label stays in its comment. -/
theorem staysComment_of_onOneLine {label : String} (hspace : endsLine ' ' = false)
    (hslash : endsLine '/' = false) (hlabel : ∀ c ∈ label.toList, endsLine c = false) :
    StaysComment endsLine label := by
  have hone : physicalLines endsLine ["// " ++ label] = [("// " ++ label).toList] := by
    rw [physicalLines_singleton]
    refine List.splitOnP_eq_singleton fun c hc => ?_
    simp only [String.toList_append, List.mem_append] at hc
    rcases hc with hc | hc
    · have hopening : c = '/' ∨ c = ' ' := by simpa using hc
      rcases hopening with rfl | rfl
      · exact hslash
      · exact hspace
    · exact hlabel c hc
  unfold StaysComment
  rw [hone]
  simp [isComment]

/-- Parts put in front of others make no difference just when all of them are empty. -/
theorem flatMap_append_eq_iff {α β : Type} {front back : α → List β} {items : List α} :
    items.flatMap (fun item => front item ++ back item) = items.flatMap back ↔
      ∀ item ∈ items, front item = [] := by
  constructor
  · intro hsame
    have hlength := congrArg List.length hsame
    simp only [List.length_flatMap, List.length_append, List.sum_map_add] at hlength
    have hnone : (items.flatMap front).length = 0 := by
      rw [List.length_flatMap]
      omega
    exact List.flatMap_eq_nil_iff.mp (List.length_eq_zero_iff.mp hnone)
  · intro hempty
    exact List.flatMap_congr fun item hmem => by rw [hempty item hmem, List.nil_append]

/-! Plans. -/

/-- The blocks that are shown: those with lines. -/
def shown (blocks : List LoweredBlock) : List LoweredBlock :=
  blocks.filter (!·.lines.isEmpty)

theorem lines_eq_flatMap_shown (plan : EmissionPlan) :
    plan.lines = (shown plan.blocks).flatMap fun block =>
      ("// " ++ block.label) :: block.lines := by
  unfold EmissionPlan.lines shown
  induction plan.blocks with
  | nil => rfl
  | cons block rest ih =>
      rw [List.flatMap_cons, ih, List.filter_cons]
      cases block.lines.isEmpty <;> simp

theorem flatMap_lines_shown (blocks : List LoweredBlock) :
    (shown blocks).flatMap LoweredBlock.lines = blocks.flatMap LoweredBlock.lines := by
  induction blocks with
  | nil => rfl
  | cons block rest ih =>
      rw [List.flatMap_cons, ← ih, shown, List.filter_cons]
      cases hlines : block.lines <;> simp [shown, hlines]

/-- Nothing of the labels is left in the code just when all of them stay in their comments. -/
theorem code_eq_statements_iff (hbreak : endsLine '\n' = true) (plan : EmissionPlan) :
    plan.code endsLine = plan.statements endsLine ↔ plan.LabelsCommented endsLine := by
  have hlabels : plan.LabelsCommented endsLine ↔
      ∀ block ∈ shown plan.blocks, codeOf endsLine ["// " ++ block.label] = [] := by
    simp only [codeOf_label_eq_nil_iff, shown, List.mem_filter, Bool.not_eq_true',
      List.isEmpty_eq_false_iff, and_imp, EmissionPlan.LabelsCommented]
  unfold EmissionPlan.code EmissionPlan.statements
  rw [hlabels, lines_eq_flatMap_shown, ← flatMap_lines_shown]
  rcases eq_or_ne (shown plan.blocks) [] with hnone | hsome
  · rw [hnone]
    simp
  · obtain ⟨first, hfirst⟩ := List.exists_mem_of_ne_nil _ hsome
    have hlines : first.lines ≠ [] := by simpa [shown] using (List.mem_filter.mp hfirst).2
    have hstatements : (shown plan.blocks).flatMap LoweredBlock.lines ≠ [] := fun hempty =>
      hlines (List.flatMap_eq_nil_iff.mp hempty first hfirst)
    have hall : ((shown plan.blocks).flatMap fun block =>
        ("// " ++ block.label) :: block.lines) ≠ [] := fun hempty =>
      List.cons_ne_nil _ _ (List.flatMap_eq_nil_iff.mp hempty first hfirst)
    rw [codeOf_eq_flatMap hbreak hall, codeOf_eq_flatMap hbreak hstatements, List.flatMap_assoc,
      List.flatMap_assoc]
    exact flatMap_append_eq_iff

namespace Screen

/-- The blocks are the same under another label. -/
abbrev SameBut (first second : Block) : Prop :=
  { first with label := none } = { second with label := none }

/-- The screens differ in the labels of their blocks only.  In the older form it is the signature of
a function that labels its block. -/
structure Relabelled (first second : Screen) : Prop where
  screen : { first with blocks := [], functions := [] } =
    { second with blocks := [], functions := [] }
  blocks : Agree (List.Forall₂ SameBut) first.effectiveBlocks second.effectiveBlocks

theorem readAlike_of_sameBut {first second : Block} (hsame : SameBut first second) :
    first.ReadAlike second :=
  Block.readAlike_of_unnamed (congrArg (fun block => { block with id := none }) hsame)

theorem Relabelled.readAlike {first second : Screen} (hrelabelled : first.Relabelled second) :
    first.ReadAlike second := by
  obtain ⟨hkey, -, hnavigation, -, hobject, hscreen, -, hdescription, -⟩ :=
    Screen.mk.inj hrelabelled.screen
  exact ⟨hkey, hobject, hscreen, hdescription, hnavigation, hrelabelled.blocks.mono
    fun _ _ hblocks => hblocks.imp fun _ _ => readAlike_of_sameBut⟩

/-- Blocks of a screen may be labelled anew, one by one. -/
theorem relabelled_of_blocks {screen : Screen} {blocks : List Block}
    (hblocks : List.Forall₂ SameBut screen.blocks blocks) :
    screen.Relabelled { screen with blocks } := by
  refine ⟨rfl, ?_⟩
  rcases eq_or_ne screen.blocks [] with hnone | hsome
  · rw [hnone, List.forall₂_nil_left_iff] at hblocks
    rw [hblocks, ← hnone]
    exact (SameResults.refl _).mono fun all _ heq => heq ▸ List.forall₂_same.mpr fun _ _ => rfl
  · have hother : blocks ≠ [] := by
      rintro rfl
      exact hsome (List.forall₂_nil_right_iff.mp hblocks)
    rw [effectiveBlocks_of_not_isLegacy (by simp [isLegacy, hsome]),
      effectiveBlocks_of_not_isLegacy (by simp [isLegacy, hother])]
    exact .done hblocks

end Screen

namespace Lowering

/-- From contexts alike, screens that differ in the labels of their blocks only are lowered
together.  Without the labels the code of the two plans is the same.  A plan has no other code just
when all labels it shows stay in their comments, and then the other plan has the same code just when
its labels do so, too. -/
theorem code_of_relabelled {endsLine : Char → Bool} (hbreak : endsLine '\n' = true)
    {first second : Screen} (hrelabelled : first.Relabelled second) (options : Options)
    {ledger other : Ledger} (hledger : ledger.SameReferences other) :
    Agree
      (fun plan another =>
        plan.statements endsLine = another.statements endsLine ∧
          (plan.code endsLine = plan.statements endsLine ↔ plan.LabelsCommented endsLine) ∧
          (plan.LabelsCommented endsLine →
            (plan.code endsLine = another.code endsLine ↔ another.LabelsCommented endsLine)))
      ((Lowering.screen first options).run ledger).1
      ((Lowering.screen second options).run other).1 := by
  have halike := hrelabelled.readAlike
  refine (screen_agree (fun _ _ => id) halike halike.blocks options hledger).mono ?_
  rintro plan another ⟨hplans, -⟩
  have hlines : plan.blocks.map LoweredBlock.lines = another.blocks.map LoweredBlock.lines := by
    have hmaps := congrArg (List.map LoweredBlock.lines) hplans.blocks
    rwa [List.map_map, List.map_map] at hmaps
  have hstatements : plan.statements endsLine = another.statements endsLine := by
    unfold EmissionPlan.statements
    rw [List.flatMap_def, hlines, ← List.flatMap_def]
  refine ⟨hstatements, code_eq_statements_iff hbreak plan, fun hcommented => ?_⟩
  rw [(code_eq_statements_iff hbreak plan).mpr hcommented, hstatements, eq_comm]
  exact code_eq_statements_iff hbreak another

def isLineFeed (c : Char) : Bool :=
  c == '\n'

/-- A piece of code under the label. -/
def labelledCode (label : String) : Block where
  type := BlockType.customCode
  label := some label
  code := some "await page.pause();"

def labelledScreen (label : String) : Screen where
  screenKey := "bookingDetails"
  blocks := [labelledCode label]

theorem labelledScreen_relabelled (first second : String) :
    (labelledScreen first).Relabelled (labelledScreen second) :=
  @Screen.relabelled_of_blocks (labelledScreen first) [labelledCode second] (.cons rfl .nil)

def loweredCode (label : String) : LoweredBlock where
  type := BlockType.customCode
  label := (labelledCode label).heading
  order := .zero false
  lines := ["await page.pause();"]

theorem customCode_labelledCode (label : String) (place : Place) :
    customCode (labelledCode label) place = .ok (loweredCode label) := by
  have hstart : start (labelledCode label) = .ok { loweredCode label with lines := [] } := rfl
  have hcode : trimmedRight (labelledCode label).sourceCode = "await page.pause();" :=
    (rfl : trimmedRight "await page.pause();" = "await page.pause();")
  have hlines : linesOf "await page.pause();" = ["await page.pause();"] := rfl
  simp only [customCode, hstart, hcode, hlines, bind, Except.bind, String.reduceEq, if_false]
  rfl

theorem labelledScreen_run (label : String) :
    ∃ plan after, (Lowering.screen (labelledScreen label) { isNative := false }).run {} =
        (.ok plan, after) ∧ plan.blocks = [loweredCode label] := by
  have henabled : enabledBlocks (labelledScreen label) = .ok [labelledCode label] := by
    simp [enabledBlocks, Screen.effectiveBlocks, labelledScreen, labelledCode, Screen.byOrder,
      Screen.isLegacy]
  have hcode : ModeDecision.hasCustomCode (labelledCode label) = true :=
    (rfl : ("custom-code" == BlockType.customCode && !isBlankText "await page.pause();") = true)
  have hdecision : ModeDecision.select [labelledCode label] "bookingDetails" false false =
      .ok { mode := .raw, reason := some .customCode } := by
    simp only [ModeDecision.select, ModeDecision.rawReason, List.any_cons, hcode]
    rfl
  have hkind : kindOf (labelledCode label) = "custom_code" :=
    kindOf_of_type rfl (rfl : replaceChar "custom-code" '-' "_" = "custom_code")
  have hlower : (blocksFrom .raw false "bookingDetails" 0 [(labelledCode label, [])]).run {} =
      (.ok [loweredCode label], {}) := by
    simp only [blocksFrom, block_eq, hkind, String.reduceEq, if_false, if_true,
      customCode_labelledCode]
    rfl
  obtain ⟨plan, hmade, -, hplan⟩ :=
    exists_planned { isNative := false } henabled hdecision rfl hlower
  exact ⟨plan, _, hmade.run, hplan⟩

/-- The second line of the label is a statement in one of the plans. -/
theorem code_of_label_on_two_lines :
    (labelledScreen "Pause").Relabelled (labelledScreen "Pause\nawait page.close();") ∧
      ∃ plan another after last,
        (Lowering.screen (labelledScreen "Pause") { isNative := false }).run {} =
          (.ok plan, after) ∧
        (Lowering.screen (labelledScreen "Pause\nawait page.close();") { isNative := false }).run
          {} = (.ok another, last) ∧
        plan.code isLineFeed ≠ another.code isLineFeed ∧
        "await page.close();".toList ∈ another.code isLineFeed := by
  obtain ⟨plan, after, hrun, hblocks⟩ := labelledScreen_run "Pause"
  obtain ⟨another, last, hother, hblocksOther⟩ :=
    labelledScreen_run "Pause\nawait page.close();"
  refine ⟨labelledScreen_relabelled _ _, plan, another, after, last, hrun, hother, ?_⟩
  unfold EmissionPlan.code EmissionPlan.lines
  rw [hblocks, hblocksOther]
  decide +kernel

theorem code_of_labels_on_one_line :
    isLineFeed '\n' = true ∧
      (labelledScreen "Pause").Relabelled (labelledScreen "Wait; // a while") ∧
      Ledger.SameReferences {} {} ∧
      ∃ plan another after last,
        (Lowering.screen (labelledScreen "Pause") { isNative := false }).run {} =
          (.ok plan, after) ∧
        (Lowering.screen (labelledScreen "Wait; // a while") { isNative := false }).run {} =
          (.ok another, last) ∧
        plan.code isLineFeed = another.code isLineFeed := by
  have hbreak : isLineFeed '\n' = true := by decide
  have hrelabelled := labelledScreen_relabelled "Pause" "Wait; // a while"
  have halike : Ledger.SameReferences {} {} := refl_of Ledger.SameReferences {}
  have honeLine (label : String) (hlabel : '\n' ∉ (labelledCode label).heading.toList) :
      StaysComment isLineFeed (labelledCode label).heading :=
    staysComment_of_onOneLine (by decide) (by decide) fun c hc =>
      beq_eq_false_iff_ne.mpr (ne_of_mem_of_not_mem hc hlabel)
  obtain ⟨plan, after, hrun, hblocks⟩ := labelledScreen_run "Pause"
  obtain ⟨another, last, hother, hblocksOther⟩ := labelledScreen_run "Wait; // a while"
  have hagree := code_of_relabelled hbreak hrelabelled { isNative := false } halike
  rw [hrun, hother] at hagree
  refine ⟨hbreak, hrelabelled, halike, plan, another, after, last, hrun, hother, ?_⟩
  cases hagree with
  | done hplans =>
      refine (hplans.2.2 ?_).mpr ?_
      · intro block hblock _
        rw [hblocks, List.mem_singleton] at hblock
        rw [hblock]
        exact honeLine "Pause" (by decide +kernel)
      · intro block hblock _
        rw [hblocksOther, List.mem_singleton] at hblock
        rw [hblock]
        exact honeLine "Wait; // a while" (by decide +kernel)

end Lowering

end ScreenFlow
