import ScreenFlow.Proofs.Lowering.Decision

/-!
Disabled blocks.  Every step of the lowering reads the enabled blocks only, so that a disabled block is
as good as none, whatever it holds.  A screen of disabled blocks only is different: without them it may
become one in the older form.
-/

namespace ScreenFlow

namespace Screen

/-- The screen without its disabled blocks. -/
def enabledOnly (screen : Screen) : Screen :=
  { screen with blocks := screen.blocks.filter (·.enabled) }

theorem Tally.add_disabled (tally : Tally) {block : Block} (hoff : block.enabled = false) :
    tally.add block = .ok tally := by
  simp [Tally.add, hoff]

theorem foldlM_add_filter (tally : Tally) (blocks : List Block) :
    (blocks.filter (·.enabled)).foldlM Tally.add tally = blocks.foldlM Tally.add tally := by
  induction blocks generalizing tally with
  | nil => rfl
  | cons block rest ih =>
      cases hblock : block.enabled with
      | false =>
          rw [List.filter_cons_of_neg (by simp [hblock]), ih, List.foldlM_cons,
            tally.add_disabled hblock]
          rfl
      | true =>
          rw [List.filter_cons_of_pos hblock, List.foldlM_cons, List.foldlM_cons]
          exact bind_congr ih

/-- The summary counts the enabled blocks. -/
theorem summary_eq_filter {screen : Screen} {blocks : List Block}
    (hblocks : screen.effectiveBlocks = .ok blocks) :
    screen.summary =
      (blocks.filter (·.enabled)).foldlM Tally.add {} >>= fun tally => .ok tally.text := by
  rw [foldlM_add_filter, summary, hblocks]
  rfl

theorem isLegacy_of_mem {screen : Screen} {block : Block} (hmem : block ∈ screen.blocks) :
    screen.isLegacy = false := by
  have hne : screen.blocks ≠ [] := List.ne_nil_of_mem hmem
  simp [isLegacy, hne]

theorem effectiveBlocks_of_not_isLegacy {screen : Screen} (hnot : screen.isLegacy = false) :
    screen.effectiveBlocks = .ok screen.blocks := by
  simp [effectiveBlocks, hnot]

theorem blocks_of_isLegacy {screen : Screen} (hlegacy : screen.isLegacy = true) :
    screen.blocks = [] := by
  unfold isLegacy at hlegacy
  exact List.isEmpty_iff.mp (Bool.and_eq_true_iff.mp hlegacy).1

theorem enabledOnly_of_blocks_nil {screen : Screen} (hnone : screen.blocks = []) :
    screen.enabledOnly = screen := by
  unfold enabledOnly
  rw [hnone, List.filter_nil, ← hnone]

/-- In the older form a screen has an enabled block: the one with its checks. -/
theorem filter_effectiveBlocks_of_isLegacy {screen : Screen} (hlegacy : screen.isLegacy = true)
    {blocks : List Block} (hblocks : screen.effectiveBlocks = .ok blocks) :
    blocks.filter (·.enabled) ≠ [] := by
  rw [effectiveBlocks, if_pos hlegacy] at hblocks
  obtain ⟨functions, -, hblocks⟩ := exists_of_bind_eq_ok hblocks
  cases hblocks
  rw [List.filter_cons_of_pos rfl]
  exact List.cons_ne_nil _ _

end Screen

namespace Lowering

/-- Screens that differ in their blocks only are lowered alike when they have the same enabled ones. -/
theorem screen_congr_blocks {screen : Screen} {blocks all others : List Block}
    (hall : screen.effectiveBlocks = .ok all)
    (hothers : { screen with blocks }.effectiveBlocks = .ok others)
    (hsame : others.filter (·.enabled) = all.filter (·.enabled)) (options : Options) :
    Lowering.screen { screen with blocks } options = Lowering.screen screen options := by
  have henabled : enabledBlocks { screen with blocks } = enabledBlocks screen := by
    rw [enabledBlocks_eq hothers, enabledBlocks_eq hall, hsame]
  have hsummary : { screen with blocks }.summary = screen.summary := by
    rw [Screen.summary_eq_filter hothers, Screen.summary_eq_filter hall, hsame]
  unfold Lowering.screen
  rw [henabled, hsummary]
  rfl

/-- Without an enabled block there is a plan without blocks. -/
theorem screen_run_of_enabledBlocks_nil {screen : Screen} (hnone : enabledBlocks screen = .ok [])
    (options : Options) (ledger : Ledger) :
    ∃ plan after, (Lowering.screen screen options).run ledger = (.ok plan, after) ∧
      plan.blocks = [] := by
  obtain ⟨decision, hdecision⟩ : ∃ decision,
      ModeDecision.select [] screen.instanceName options.isNative options.forceRaw =
        .ok decision := by
    cases options.forceRaw <;> exact ⟨_, rfl⟩
  have hlower : (blocksFrom decision.mode options.isNative screen.instanceName 0
      (([] : List Block).zip [])).run ledger = (.ok [], ledger) := rfl
  obtain ⟨plan, hmade, -, hplan⟩ := exists_planned options hnone hdecision rfl hlower
  exact ⟨plan, _, hmade.run, hplan⟩

/-- The plan of a screen in the older form has a block for its checks. -/
theorem blocks_ne_nil_of_isLegacy {screen : Screen} (hlegacy : screen.isLegacy = true)
    {options : Options} {ledger after : Ledger} {plan : EmissionPlan}
    (hrun : (Lowering.screen screen options).run ledger = (.ok plan, after)) :
    plan.blocks ≠ [] := by
  intro hplan
  obtain ⟨-, blocks, hblocks, hlowered, -⟩ := screen_ok hrun
  rw [hplan, List.forall₂_nil_right_iff] at hlowered
  obtain ⟨all, hall, hsorted⟩ := exists_of_bind_eq_ok hblocks
  cases hsorted
  have hperm : (Screen.byOrder Block.order (all.filter (·.enabled))).Perm _ :=
    List.mergeSort_perm _ _
  rw [hlowered] at hperm
  exact Screen.filter_effectiveBlocks_of_isLegacy hlegacy hall hperm.nil_eq.symm

/-- Deleting the disabled blocks changes nothing just when it does not turn the screen into one in the
older form. -/
theorem screen_enabledOnly_iff (screen : Screen) (options : Options) :
    Lowering.screen screen.enabledOnly options = Lowering.screen screen options ↔
      screen.enabledOnly.isLegacy = screen.isLegacy := by
  constructor
  · intro hsame
    by_contra hne
    have hnot : screen.isLegacy = false := by
      by_contra hlegacy
      rw [Screen.enabledOnly_of_blocks_nil
        (Screen.blocks_of_isLegacy (Bool.of_not_eq_false hlegacy))] at hne
      exact hne rfl
    have hlegacy : screen.enabledOnly.isLegacy = true := by
      rw [hnot] at hne
      exact Bool.of_not_eq_false hne
    -- all blocks are disabled, and there is a plan without blocks
    have hdisabled : screen.blocks.filter (·.enabled) = [] := Screen.blocks_of_isLegacy hlegacy
    have hnone : enabledBlocks screen = .ok [] := by
      rw [enabledBlocks_eq (Screen.effectiveBlocks_of_not_isLegacy hnot), hdisabled, Screen.byOrder,
        List.mergeSort_nil]
    obtain ⟨plan, after, hrun, hplan⟩ := screen_run_of_enabledBlocks_nil hnone options {}
    rw [← hsame] at hrun
    exact blocks_ne_nil_of_isLegacy hlegacy hrun hplan
  · intro hsame
    cases hlegacy : screen.isLegacy with
    | true => rw [Screen.enabledOnly_of_blocks_nil (Screen.blocks_of_isLegacy hlegacy)]
    | false =>
        rw [hlegacy] at hsame
        exact screen_congr_blocks (Screen.effectiveBlocks_of_not_isLegacy hlegacy)
          (Screen.effectiveBlocks_of_not_isLegacy hsame)
          (List.filter_filter.trans (by simp)) options

/-- Processing a screen that has an enabled block gives the same result and records the same, whatever
its disabled blocks are, and also without them. -/
theorem disabled_blocks_change_nothing {screen : Screen}
    (hsome : ∃ block ∈ screen.blocks, block.enabled = true) (options : Options)
    (ledger : Ledger) :
    (Lowering.screen screen.enabledOnly options).run ledger =
        (Lowering.screen screen options).run ledger ∧
      ∀ blocks, blocks.filter (·.enabled) = screen.blocks.filter (·.enabled) →
        (Lowering.screen { screen with blocks } options).run ledger =
          (Lowering.screen screen options).run ledger := by
  have hsame : ∀ blocks, blocks.filter (·.enabled) = screen.blocks.filter (·.enabled) →
      Lowering.screen { screen with blocks } options = Lowering.screen screen options := by
    intro blocks hblocks
    obtain ⟨block, hmem, henabled⟩ := hsome
    have hother : block ∈ blocks := by
      have hfilter := List.mem_filter.mpr ⟨hmem, henabled⟩
      rw [← hblocks] at hfilter
      exact (List.mem_filter.mp hfilter).1
    have hlegacy : { screen with blocks }.isLegacy = false := Screen.isLegacy_of_mem hother
    exact screen_congr_blocks
      (Screen.effectiveBlocks_of_not_isLegacy (Screen.isLegacy_of_mem hmem))
      (Screen.effectiveBlocks_of_not_isLegacy hlegacy) hblocks options
  constructor
  · exact congrArg (Compile.run · ledger) (hsame _ (List.filter_filter.trans (by simp)))
  · exact fun blocks hblocks => congrArg (Compile.run · ledger) (hsame blocks hblocks)

/-- A disabled block whose payload cannot be read. -/
def draftChecks : Block where
  type := BlockType.uiAssertion
  enabled := false
  data := [("visible", .list [.int 1])]

/-- The disabled code would put the screen into raw mode, and the disabled call would store a name. -/
def draftScreen : Screen :=
  { totalScreen with
    blocks := [draftChecks, totalComparison,
      { type := BlockType.customCode, enabled := false, code := some "await pause();" },
      { totalCall with enabled := false }, totalCall] }

theorem draftScreen_as_totalScreen :
    (∃ block ∈ draftScreen.blocks, block.enabled = true) ∧ draftChecks.uiChecks.isOk = false ∧
      draftScreen.enabledOnly = totalScreen ∧
      (Lowering.screen totalScreen { isNative := false }).run {} =
        (Lowering.screen draftScreen { isNative := false }).run {} := by
  have hsome : ∃ block ∈ draftScreen.blocks, block.enabled = true :=
    ⟨totalCall, by simp [draftScreen], rfl⟩
  exact ⟨hsome, rfl, rfl, (disabled_blocks_change_nothing hsome { isNative := false } {}).1⟩

end Lowering

end ScreenFlow
