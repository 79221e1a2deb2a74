import ScreenFlow.Proofs.Lowering.Decision

/-!
The two kinds of platforms side by side.  A screen that can be lowered on one can be lowered on the
other, and the same references are registered.  The native plan is structured and says what it was
downgraded from; the plans differ further only where custom code is wrapped in a test step.
-/

namespace ScreenFlow

namespace Lowering

open Effect

/-- The same place on a platform of the given kind. -/
abbrev Place.on (place : Place) (isNative : Bool) : Place :=
  { place with isNative }

/-- Whether the code of a block stands in a test step wherever there are test steps. -/
def isWrapped (block : Block) : Bool :=
  kindOf block == "custom_code" && trimmedRight block.sourceCode != "" &&
    (Block.filled block.testStepName).isSome && block.wrapInTestStep

/-- The blocks are the same, unless something is put around the code of one of them. -/
structure LoweredApart (isApart : Bool) (first second : LoweredBlock) : Prop where
  call : SameCall first second
  same_iff : first = second ↔ isApart = false

/-! Blocks. -/

theorem complete_injective (base : LoweredBlock) : Function.Injective (complete base) := by
  rintro ⟨_, _, _⟩ ⟨_, _, _⟩ hsame
  cases hsame
  rfl

/-- A test step has two lines more than the code in it. -/
theorem codeLines_on_iff {block : Block} (hkind : kindOf block = "custom_code") (place : Place) :
    codeLines block (place.on false) = codeLines block (place.on true) ↔
      isWrapped block = false := by
  unfold codeLines isWrapped
  dsimp only
  by_cases hempty : trimmedRight block.sourceCode = ""
  · simp [hempty]
  · rw [if_neg hempty, if_neg hempty]
    cases hname : Block.filled block.testStepName with
    | none => simp
    | some name =>
        cases hwrap : block.wrapInTestStep with
        | false => simp
        | true =>
            refine iff_of_false (fun hsame => ?_) (by simp [hkind, hempty])
            have hlength := congrArg List.length hsame
            simp only [Bool.not_false, Bool.not_true, Bool.and_true, Bool.and_false, if_true,
              Bool.false_eq_true, if_false, List.length_append, List.length_singleton,
              List.length_map] at hlength
            omega

/-- A block puts the same into its start on both platforms, unless its code is wrapped on one. -/
theorem contentOf_on {mode : EmissionMode} {block : Block} {place : Place} {isNative : Bool}
    {content : Content} (hcontent : contentOf mode block (place.on isNative) = .ok content) :
    ∃ other, contentOf mode block (place.on !isNative) = .ok other ∧
      content.external = other.external ∧ (content = other ↔ isWrapped block = false) := by
  by_cases hkind : kindOf block = "custom_code"
  · have hcode (isNative : Bool) : contentOf mode block (place.on isNative) =
        .ok { lines := codeLines block (place.on isNative) } := by
      simp [contentOf, hkind]
    rw [hcode, Except.ok.injEq] at hcontent
    subst hcontent
    refine ⟨_, hcode _, rfl, ?_⟩
    rw [Content.mk.injEq, ← codeLines_on_iff hkind place]
    cases isNative with
    | false => simp
    | true => simp [eq_comm]
  · have hsame : contentOf mode block (place.on !isNative) =
        contentOf mode block (place.on isNative) := by
      unfold contentOf
      rw [if_neg hkind, if_neg hkind]
      cases mode <;> rfl
    have hunwrapped : isWrapped block = false := by simp [isWrapped, hkind]
    exact ⟨content, hsame.trans hcontent, rfl, iff_of_true rfl hunwrapped⟩

theorem block_follows_on (mode : EmissionMode) (block : Block) (place : Place)
    (isNative : Bool) :
    Follows Ledger.SameReferences Ledger.SameReferences (LoweredApart (isWrapped block))
      (Lowering.block mode block (place.on isNative))
      (Lowering.block mode block (place.on !isNative)) := by
  refine follows_of_results fun lowered hresult => ?_
  obtain ⟨base, content, hstart, hcontent, rfl⟩ := resultOf_eq_ok_iff.mp hresult
  obtain ⟨other, hother, hexternal, hsame⟩ := contentOf_on hcontent
  exact ⟨_, resultOf_eq_ok_iff.mpr ⟨base, other, hstart, hother, rfl⟩, hexternal,
    (complete_injective base).eq_iff.trans hsame⟩

/-- The lowered blocks of the two platforms call the same objects, and they are the same as long as
no code stands in a test step. -/
theorem blocksFrom_follows_on (mode : EmissionMode) (isNative : Bool) (object : String)
    (position : Nat) (blocks : List (Block × Scope)) :
    Follows Ledger.SameReferences Ledger.SameReferences
      (fun first second =>
        first.map LoweredBlock.external = second.map LoweredBlock.external ∧
          (first = second ↔ ∀ item ∈ blocks, isWrapped item.1 = false))
      (blocksFrom mode isNative object position blocks)
      (blocksFrom mode (!isNative) object position blocks) := by
  induction blocks generalizing position with
  | nil => exact .pure ⟨rfl, by simp⟩
  | cons item rest ih =>
      refine (block_follows_on mode item.1 { isNative, object, scope := item.2, position }
        isNative).bind fun first second hfirst => ?_
      refine (ih (position + 1)).bind fun firsts seconds hrest => .pure ⟨?_, ?_⟩
      · rw [List.map_cons, List.map_cons, hfirst.call, hrest.1]
      · rw [List.cons.injEq, hfirst.same_iff, hrest.2, List.forall_mem_cons]

/-! Screens. -/

/-- The plans of a screen for a browser and for a native platform. -/
structure PlansApart (blocks : List Block) (browser native : EmissionPlan) : Prop where
  structured : native.decision.mode = .structured
  unreasoned : native.decision.reason = none
  downgraded : native.decision.downgradedFrom = browser.decision.reason
  references : native.references = browser.references
  same_iff : browser.decision.reason = none →
    (browser.blocks = native.blocks ∧ browser.lines = native.lines ↔
      ∀ block ∈ blocks, block.type ≠ BlockType.customCode → isWrapped block = false)

/-- Whether the plans are the same wherever nothing asks for the raw mode. -/
def SameWhenPlain (browser native : EmissionPlan) : Prop :=
  browser.decision.reason = none →
    browser.blocks = native.blocks ∧ browser.lines = native.lines

/-- Blank code is not wrapped. -/
theorem not_isWrapped_of_plain {own : String} {block : Block}
    (hplain : ModeDecision.IsPlain own block) (htype : block.type = BlockType.customCode) :
    isWrapped block = false := by
  have hcode := hplain.code
  simp only [ModeDecision.hasCustomCode, htype, beq_self_eq_true, Bool.true_and,
    Bool.not_eq_false', isBlankText_iff] at hcode
  simp [isWrapped, hcode]

/-- A screen that can be lowered on one kind of platform can be lowered on the other, with the same
reason to ask for the raw mode and the same references. -/
theorem screen_run_on {screen : Screen} {options : Options} {isNative : Bool}
    {first second after : Ledger} {plan : EmissionPlan} (halike : first.SameReferences second)
    (hrun : (Lowering.screen screen { options with isNative }).run first = (.ok plan, after)) :
    ∃ blocks reason other last, enabledBlocks screen = .ok blocks ∧
      ModeDecision.rawReason blocks screen.instanceName options.forceRaw = .ok reason ∧
      (Lowering.screen screen { options with isNative := !isNative }).run second =
        (.ok other, last) ∧
      plan.decision = .ofReason reason isNative ∧ other.decision = .ofReason reason !isNative ∧
      plan.references = other.references ∧ after.SameReferences last ∧
      (plan.decision.mode = other.decision.mode →
        (plan.blocks = other.blocks ↔ ∀ block ∈ blocks, isWrapped block = false)) := by
  obtain ⟨blocks, found, middle, hmade, rfl⟩ := exists_planned_of_run hrun
  obtain ⟨reason, hreason, hreasoned⟩ := ModeDecision.select_eq_ok_iff.mp hmade.decision
  have hlower := hmade.lowered
  dsimp only at hlower hreason hreasoned
  -- to the other platform in the same mode, and from there to the mode decided on
  obtain ⟨moved, moving, hmoved, ⟨hexternal, hsame⟩, hmoving⟩ :=
    blocksFrom_follows_on plan.decision.mode isNative _ _ _ _ _ halike _ _ hlower
  have hother := ModeDecision.select_eq_ok_iff.mpr
    ⟨reason, hreason, Eq.refl (ModeDecision.ofReason reason !isNative)⟩
  obtain ⟨others, last, hothers, hexternals, hlast⟩ :=
    blocksFrom_follows plan.decision.mode (ModeDecision.ofReason reason !isNative).mode _ _ _ _
      second second (refl_of Ledger.SameReferences second) _ _ hmoved
  obtain ⟨other, hmadeOther, hdecisionOther, hblocksOther⟩ :=
    exists_planned { options with isNative := !isNative } hmade.enabled hother hmade.scopes hothers
  have hreferences : plan.references = other.references := by
    unfold EmissionPlan.references
    rw [hmade.external, hmadeOther.external, hmade.own, hmadeOther.own, hblocksOther,
      callReferences_eq_of_externals (hexternal.trans hexternals)]
  refine ⟨blocks, reason, other, _, hmade.enabled, hreason, hmadeOther.run, hreasoned,
    hdecisionOther, hreferences, ?_, fun hmode => ?_⟩
  · rw [← hreferences]
    exact (trans_of Ledger.SameReferences hmoving hlast).addAll plan.references
  · have hunmoved : others = moved := by
      rw [← hdecisionOther, ← hmode] at hothers
      cases hothers.symm.trans hmoved
      rfl
    have hfirst : (blocks.zip found).map Prod.fst = blocks :=
      List.map_fst_zip (by rw [scopes_length hmade.scopes])
    have hall : (∀ item ∈ blocks.zip found, isWrapped item.1 = false) ↔
        ∀ block ∈ (blocks.zip found).map Prod.fst, isWrapped block = false :=
      (@List.forall_mem_map _ _ Prod.fst _ fun block => isWrapped block = false).symm
    rw [hblocksOther, hunmoved, hsame, hall, hfirst]

theorem plansApart_of_run {screen : Screen} {options : Options} {first second after : Ledger}
    {browser : EmissionPlan} (halike : first.SameReferences second)
    (hrun : (Lowering.screen screen { options with isNative := false }).run first =
      (.ok browser, after)) :
    ∃ blocks native last, enabledBlocks screen = .ok blocks ∧
      (Lowering.screen screen { options with isNative := true }).run second = (.ok native, last) ∧
      after.SameReferences last ∧ PlansApart blocks browser native := by
  obtain ⟨blocks, reason, native, last, hblocks, hreason, hnative, hbrowser, hdecision,
    hreferences, hafter, hsame⟩ := screen_run_on halike hrun
  rw [Bool.not_false, ModeDecision.ofReason_native] at hdecision
  refine ⟨blocks, native, last, hblocks, hnative, hafter, ?_, ?_, ?_, hreferences.symm, ?_⟩
  · rw [hdecision]
  · rw [hdecision]
  · rw [hdecision, hbrowser, ModeDecision.reason_ofReason_browser]
  · intro hnone
    rw [hbrowser, ModeDecision.reason_ofReason_browser] at hnone
    subst hnone
    obtain ⟨-, hplain⟩ := ModeDecision.rawReason_eq_none_iff.mp hreason
    have hunwrapped := hsame (by rw [hbrowser, hdecision]; rfl)
    have hlines : browser.blocks = native.blocks ∧ browser.lines = native.lines ↔
        browser.blocks = native.blocks :=
      and_iff_left_of_imp fun heq => by unfold EmissionPlan.lines; rw [heq]
    rw [hlines, hunwrapped]
    refine forall₂_congr fun block hmem => ?_
    by_cases htype : block.type = BlockType.customCode
    · simp [htype, not_isWrapped_of_plain (hplain block hmem) htype]
    · simp [htype]

/-- From the same references, a screen is lowered for both kinds of platforms, or for neither.  The
native plan is structured, and tells the reason for which the browser's is not; without such a reason
the two have the same blocks and lines, unless some code that is not declared as custom code, and yet
lowered as such, stands in a test step. -/
theorem screen_platforms_apart (screen : Screen) (options : Options) {first second : Ledger}
    (halike : first.SameReferences second) :
    (∃ failure other after last,
      (Lowering.screen screen { options with isNative := false }).run first =
        (.error failure, after) ∧
      (Lowering.screen screen { options with isNative := true }).run second =
        (.error other, last) ∧
      first.SameReferences after ∧ second.SameReferences last) ∨
    ∃ blocks browser native after last, enabledBlocks screen = .ok blocks ∧
      (Lowering.screen screen { options with isNative := false }).run first =
        (.ok browser, after) ∧
      (Lowering.screen screen { options with isNative := true }).run second =
        (.ok native, last) ∧
      after.SameReferences last ∧ PlansApart blocks browser native := by
  cases hbrowser : (Lowering.screen screen { options with isNative := false }).run first with
  | mk result after =>
      cases result with
      | ok browser =>
          obtain ⟨blocks, native, last, hblocks, hnative, hafter, hapart⟩ :=
            plansApart_of_run halike hbrowser
          exact .inr ⟨blocks, browser, native, after, last, hblocks, rfl, hnative, hafter, hapart⟩
      | error failure =>
          cases hnative : (Lowering.screen screen { options with isNative := true }).run second with
          | mk result last =>
              cases result with
              | error other =>
                  exact .inl ⟨failure, other, after, last, rfl, rfl, screen_error hbrowser,
                    screen_error hnative⟩
              | ok native =>
                  obtain ⟨_, _, browser, _, -, -, hok, -⟩ := screen_run_on halike.symm hnative
                  rw [Bool.not_true, hbrowser] at hok
                  cases hok

/-- Code in a block whose type is written with a low line. -/
def pauseBlock : Block where
  type := "custom_code"
  code := some "await driver.pause(10);"
  testStepName := some "Pause"

def pauseScreen : Screen where
  screenKey := "bookingDetails"
  blocks := [pauseBlock]

theorem enabledBlocks_pauseScreen : enabledBlocks pauseScreen = .ok [pauseBlock] := by
  simp [enabledBlocks, Screen.effectiveBlocks, pauseScreen, pauseBlock, Screen.byOrder,
    Screen.isLegacy]

def pauseBlocks (isNative : Bool) : List LoweredBlock := [{
  type := "custom_code"
  label := "custom_code"
  order := .zero false
  lines :=
    if isNative then ["await driver.pause(10);"]
    else ["await test.step('Pause', async () => \x7b", "  await driver.pause(10);", "\x7d);"] }]

theorem pauseScreen_run (isNative : Bool) :
    ∃ plan after, (Lowering.screen pauseScreen { isNative }).run {} = (.ok plan, after) ∧
      plan.decision.reason = none ∧ plan.blocks = pauseBlocks isNative := by
  have hselect : ModeDecision.select [pauseBlock] "bookingDetails" isNative false =
      .ok { mode := .structured } := rfl
  have hlower : (blocksFrom .structured isNative "bookingDetails" 0 [(pauseBlock, [])]).run {} =
      (.ok (pauseBlocks isNative), {}) := by
    cases isNative <;> rfl
  obtain ⟨plan, hmade, hdecision, hplan⟩ :=
    exists_planned { isNative } enabledBlocks_pauseScreen hselect rfl hlower
  exact ⟨plan, _, hmade.run, by rw [hdecision], hplan⟩

/-- Nothing asks for the raw mode, and yet only the browser's plan has a test step. -/
theorem not_sameWhenPlain_pauseScreen :
    ∃ browser native after last,
      (Lowering.screen pauseScreen { isNative := false }).run {} = (.ok browser, after) ∧
      (Lowering.screen pauseScreen { isNative := true }).run {} = (.ok native, last) ∧
      ¬SameWhenPlain browser native := by
  obtain ⟨browser, after, hbrowser, hreason, hwrapped⟩ := pauseScreen_run false
  obtain ⟨native, last, hnative, -, hbare⟩ := pauseScreen_run true
  refine ⟨browser, native, after, last, hbrowser, hnative, fun hsame => ?_⟩
  obtain ⟨hblocks, -⟩ := hsame hreason
  rw [hwrapped, hbare] at hblocks
  have hlength := congrArg (List.map fun lowered => lowered.lines.length) hblocks
  exact absurd hlength (by decide)

theorem pauseScreen_platforms_apart :
    Ledger.SameReferences {} {} ∧
      ∃ browser native after last,
        (Lowering.screen pauseScreen { isNative := false }).run {} = (.ok browser, after) ∧
        (Lowering.screen pauseScreen { isNative := true }).run {} = (.ok native, last) ∧
        PlansApart [pauseBlock] browser native := by
  have halike : Ledger.SameReferences {} {} := refl_of Ledger.SameReferences {}
  refine ⟨halike, ?_⟩
  rcases screen_platforms_apart pauseScreen { isNative := false } halike with
    ⟨failure, _, _, _, hfailed, -⟩ |
    ⟨blocks, browser, native, after, last, hblocks, hbrowser, hnative, -, hapart⟩
  · obtain ⟨plan, after, hrun, -⟩ := pauseScreen_run false
    cases hrun.symm.trans hfailed
  · cases hblocks.symm.trans enabledBlocks_pauseScreen
    exact ⟨browser, native, after, last, hbrowser, hnative, hapart⟩

end Lowering

end ScreenFlow
