import ScreenFlow.Proofs.Lowering.Block

/-!
What lowering a screen registers: the references of its plan, in their order, or nothing at all when
the screen cannot be lowered.  The plan has a reference for the class of every object that its
blocks call.
-/

namespace ScreenFlow

namespace Lowering

/-- The reference that a call in a block asks for. -/
def callReference (block : Block) (object : String) : Reference :=
  let data := block.callData.toOption.getD {}
  { className := (Block.filled data.className).getD (pascalCase object)
    path := data.path
    varName := some object }

theorem ne_empty_of_not_self {object : String} (hself : object ∉ ModeDecision.selfNames) :
    object ≠ "" := by
  rintro rfl
  exact hself (by decide)

def callReferences (blocks : List Block) (lowered : List LoweredBlock) : List Reference :=
  (blocks.zip lowered).filterMap fun pair => pair.2.external.map (callReference pair.1)

theorem externalReference?_eq {block : Block} {own : String} {lowered : LoweredBlock}
    (hlowered : LoweredFrom block own lowered) :
    externalReference? block lowered = .ok (lowered.external.map (callReference block)) := by
  unfold externalReference?
  cases hexternal : lowered.external with
  | none => rfl
  | some object =>
      obtain ⟨-, -, data, hdata, -⟩ := hlowered.called object hexternal
      rw [Option.map_some, callReference, hdata]
      rfl

theorem mapM_externalReference? {blocks : List Block} {own : String}
    {lowered : List LoweredBlock}
    (hlowered : List.Forall₂ (fun block => LoweredFrom block own) blocks lowered) :
    (blocks.zip lowered).mapM (fun pair => externalReference? pair.1 pair.2) =
      .ok ((blocks.zip lowered).map fun pair => pair.2.external.map (callReference pair.1)) := by
  induction hlowered with
  | nil => rfl
  | cons hfirst hrest ih =>
      rw [List.zip_cons_cons, List.mapM_cons, externalReference?_eq hfirst, ih]
      rfl

theorem uiChecks_of_start {block : Block} {base : LoweredBlock} (hstart : start block = .ok base)
    (htype : block.type = BlockType.uiAssertion) : ∃ checks, block.uiChecks = .ok checks := by
  obtain ⟨names, hnames, -⟩ := exists_of_bind_eq_ok hstart
  have hcall : BlockType.uiAssertion ≠ BlockType.functionCall := by decide
  simp only [Block.storedNames, htype, hcall, if_false, if_true] at hnames
  obtain ⟨checks, hchecks, -⟩ := exists_of_bind_eq_ok hnames
  exact ⟨checks, hchecks⟩

theorem tally_add_ok (tally : Screen.Tally) {block : Block}
    (hstart : block.enabled = true → ∃ base, start block = .ok base) :
    ∃ next, tally.add block = .ok next := by
  unfold Screen.Tally.add
  split
  · exact ⟨_, rfl⟩
  · next henabled =>
      obtain ⟨base, hbase⟩ := hstart (by simpa using henabled)
      split
      · next htype =>
          obtain ⟨checks, hchecks⟩ := uiChecks_of_start hbase htype
          rw [hchecks]
          exact ⟨_, rfl⟩
      · split <;> exact ⟨_, rfl⟩

theorem tally_blocks_ok (tally : Screen.Tally) {blocks : List Block}
    (hstart : ∀ block ∈ blocks, block.enabled = true → ∃ base, start block = .ok base) :
    ∃ total, blocks.foldlM Screen.Tally.add tally = .ok total := by
  induction blocks generalizing tally with
  | nil => exact ⟨tally, rfl⟩
  | cons block rest ih =>
      obtain ⟨next, hnext⟩ := tally_add_ok tally (hstart block (by simp))
      obtain ⟨total, htotal⟩ := ih next fun other hother => hstart other (by simp [hother])
      refine ⟨total, ?_⟩
      rw [List.foldlM_cons, hnext]
      exact htotal

theorem summary_ok {screen : Screen} {blocks : List Block}
    (hblocks : enabledBlocks screen = .ok blocks)
    (hstart : ∀ block ∈ blocks, ∃ base, start block = .ok base) :
    ∃ text, screen.summary = .ok text := by
  obtain ⟨all, hall, hsorted⟩ := exists_of_bind_eq_ok hblocks
  cases hsorted
  have henabled : ∀ block ∈ all, block.enabled = true → ∃ base, start block = .ok base := by
    intro block hmem henabled
    apply hstart
    rw [Screen.byOrder, List.mem_mergeSort]
    exact List.mem_filter.mpr ⟨hmem, henabled⟩
  obtain ⟨total, htotal⟩ := tally_blocks_ok {} henabled
  refine ⟨total.text, ?_⟩
  unfold Screen.summary
  rw [hall]
  change (all.foldlM Screen.Tally.add {} >>= _) = _
  rw [htotal]
  rfl

theorem scopes_length {steps : List Step} {fields : List String} {blocks : List Block}
    {found : List Scope} (hscopes : scopes steps fields blocks = .ok found) :
    found.length = blocks.length := by
  have hlength := (forall₂_of_mapM_eq_ok hscopes).length_eq
  rw [List.length_range] at hlength
  exact hlength.symm

theorem forall₂_of_zip {own : String} {blocks : List Block} {found : List Scope}
    {lowered : List LoweredBlock} (hlength : found.length = blocks.length)
    (hlowered : List.Forall₂ (fun item : Block × Scope => LoweredFrom item.1 own)
      (blocks.zip found) lowered) :
    List.Forall₂ (fun block => LoweredFrom block own) blocks lowered := by
  have hblocks : blocks = (blocks.zip found).map Prod.fst := by
    rw [List.map_fst_zip (by omega)]
  rw [hblocks, List.forall₂_map_left_iff]
  exact hlowered

theorem started_of_forall₂ {own : String} {blocks : List Block} {lowered : List LoweredBlock}
    (hlowered : List.Forall₂ (fun block => LoweredFrom block own) blocks lowered) :
    ∀ block ∈ blocks, ∃ base, start block = .ok base := by
  induction hlowered with
  | nil => simp
  | cons hfirst _ ih => exact List.forall_mem_cons.mpr ⟨hfirst.started, ih⟩

/-! What leads to a plan, and what keeps a screen from one. -/

/-- The steps to a plan, each with what it gives to the plan. -/
structure Planned (screen : Screen) (options : Options) (ledger : Ledger) (blocks : List Block)
    (found : List Scope) (middle : Ledger) (plan : EmissionPlan) : Prop where
  enabled : enabledBlocks screen = .ok blocks
  decision : ModeDecision.select blocks screen.instanceName options.isNative options.forceRaw =
    .ok plan.decision
  scopes : scopes options.steps options.fields blocks = .ok found
  lowered : (blocksFrom plan.decision.mode options.isNative screen.instanceName 0
    (blocks.zip found)).run ledger = (.ok plan.blocks, middle)
  own : plan.own = ownReference? screen
  external : plan.external = firstOfClass (plan.own.toList.map (·.className))
    (callReferences blocks plan.blocks)
  summary : screen.summary = .ok plan.summary
  screenKey : plan.screenKey = screen.screenKey
  instanceName : plan.instanceName = screen.instanceName
  description : plan.description = screen.description
  navigation : plan.navigation = screen.navigation

section

variable {screen : Screen} {options : Options} {ledger middle after : Ledger}
  {blocks : List Block} {found : List Scope} {plan : EmissionPlan}

theorem Planned.loweredFrom (hplan : Planned screen options ledger blocks found middle plan) :
    List.Forall₂ (fun block => LoweredFrom block screen.instanceName) blocks plan.blocks :=
  forall₂_of_zip (scopes_length hplan.scopes)
    (blocksFrom_loweredFrom _ _ _ _ _ _ _ _ hplan.lowered)

/-- Of the steps to a plan, those after the blocks register its references. -/
theorem Planned.run (hplan : Planned screen options ledger blocks found middle plan) :
    (Lowering.screen screen options).run ledger = (.ok plan, middle.addAll plan.references) := by
  have hcalled := mapM_externalReference? hplan.loweredFrom
  have hlower := hplan.lowered
  obtain ⟨key, decision, object, lowered, external, own, text, description, navigation⟩ := plan
  obtain ⟨hblocks, hdecision, hscopes, -, hown, hexternal, htext, hkey, hobject, hdescription,
    hnavigation⟩ := hplan
  dsimp only at *
  subst hown hexternal hkey hobject hdescription hnavigation
  unfold Compile.run at hlower
  unfold Lowering.screen Compile.run
  simp only [Effect.run_bind, Effect.run_lift, hblocks, hdecision, hscopes, hlower,
    Compile.run_register_option, Effect.run_mapM_lift, hcalled, Compile.run_register_all, htext,
    Effect.run_pure, List.filterMap_map, Function.id_comp, EmissionPlan.references,
    Ledger.addAll_append]
  rfl

variable (options) in
/-- When the blocks of a screen have been lowered, nothing fails any more. -/
theorem exists_planned {decision : ModeDecision} {lowered : List LoweredBlock}
    (hblocks : enabledBlocks screen = .ok blocks)
    (hdecision : ModeDecision.select blocks screen.instanceName options.isNative
      options.forceRaw = .ok decision)
    (hscopes : scopes options.steps options.fields blocks = .ok found)
    (hlower : (blocksFrom decision.mode options.isNative screen.instanceName 0
      (blocks.zip found)).run ledger = (.ok lowered, middle)) :
    ∃ plan, Planned screen options ledger blocks found middle plan ∧
      plan.decision = decision ∧ plan.blocks = lowered := by
  have hlowered := forall₂_of_zip (scopes_length hscopes)
    (blocksFrom_loweredFrom _ _ _ _ _ _ _ _ hlower)
  obtain ⟨text, htext⟩ := summary_ok hblocks (started_of_forall₂ hlowered)
  exact ⟨{
    screenKey := screen.screenKey
    decision
    instanceName := screen.instanceName
    blocks := lowered
    external := firstOfClass ((ownReference? screen).toList.map (·.className))
      (callReferences blocks lowered)
    own := ownReference? screen
    summary := text
    description := screen.description
    navigation := screen.navigation },
    ⟨hblocks, hdecision, hscopes, hlower, rfl, rfl, htext, rfl, rfl, rfl, rfl⟩, rfl, rfl⟩

theorem exists_planned_of_run
    (hrun : (Lowering.screen screen options).run ledger = (.ok plan, after)) :
    ∃ blocks found middle, Planned screen options ledger blocks found middle plan ∧
      after = middle.addAll plan.references := by
  have hrest := hrun
  unfold Lowering.screen Compile.run at hrest
  obtain ⟨blocks, hblocks, hrest⟩ := Effect.exists_of_run_lift_bind_eq_ok hrest
  obtain ⟨decision, hdecision, hrest⟩ := Effect.exists_of_run_lift_bind_eq_ok hrest
  obtain ⟨found, hscopes, hrest⟩ := Effect.exists_of_run_lift_bind_eq_ok hrest
  obtain ⟨lowered, middle, hlower, -⟩ := Effect.exists_of_run_bind_eq_ok hrest
  obtain ⟨_, hplan, -⟩ := exists_planned options hblocks hdecision hscopes hlower
  cases hplan.run.symm.trans hrun
  exact ⟨blocks, found, middle, hplan, rfl⟩

/-- The step at which a screen fails: one before its blocks are lowered, or that of a block. -/
inductive Refused (screen : Screen) (options : Options) (ledger : Ledger) (failure : Failure) :
    Ledger → Prop
  | enabled : enabledBlocks screen = .error failure → Refused screen options ledger failure ledger
  | mode {blocks : List Block} : enabledBlocks screen = .ok blocks →
      ModeDecision.select blocks screen.instanceName options.isNative options.forceRaw =
        .error failure →
      Refused screen options ledger failure ledger
  | scopes {blocks : List Block} : enabledBlocks screen = .ok blocks →
      scopes options.steps options.fields blocks = .error failure →
      Refused screen options ledger failure ledger
  | lowered {blocks : List Block} {found : List Scope} {mode : EmissionMode} {after : Ledger} :
      enabledBlocks screen = .ok blocks →
      (blocksFrom mode options.isNative screen.instanceName 0 (blocks.zip found)).run ledger =
        (.error failure, after) →
      Refused screen options ledger failure after

theorem refused_of_run {failure : Failure}
    (hrun : (Lowering.screen screen options).run ledger = (.error failure, after)) :
    Refused screen options ledger failure after := by
  have hrest := hrun
  unfold Lowering.screen Compile.run at hrest
  rcases Effect.of_run_lift_bind_eq_error hrest with ⟨hfirst, rfl⟩ | ⟨blocks, hblocks, hrest⟩
  · exact .enabled hfirst
  rcases Effect.of_run_lift_bind_eq_error hrest with ⟨hmode, rfl⟩ | ⟨decision, hdecision, hrest⟩
  · exact .mode hblocks hmode
  rcases Effect.of_run_lift_bind_eq_error hrest with ⟨hscope, rfl⟩ | ⟨found, hscopes, hrest⟩
  · exact .scopes hblocks hscope
  rcases Effect.of_run_bind_eq_error hrest with hlower | ⟨lowered, middle, hlower, -⟩
  · exact .lowered hblocks hlower
  · obtain ⟨plan, hplan, -⟩ := exists_planned options hblocks hdecision hscopes hlower
    cases hplan.run.symm.trans hrun

/-- A screen that has been lowered registers the references of its plan, one by one. -/
theorem screen_ok (hrun : (Lowering.screen screen options).run ledger = (.ok plan, after)) :
    (ledger.addAll plan.references).SameReferences after ∧
      ∃ blocks, enabledBlocks screen = .ok blocks ∧
        List.Forall₂ (fun block => LoweredFrom block screen.instanceName) blocks plan.blocks ∧
        plan.external = firstOfClass (plan.own.toList.map (·.className))
          (callReferences blocks plan.blocks) := by
  obtain ⟨blocks, found, middle, hplan, rfl⟩ := exists_planned_of_run hrun
  have hlower := hplan.lowered
  unfold Compile.run at hlower
  have hkept := blocksFrom_moves plan.decision.mode options.isNative screen.instanceName 0
    (blocks.zip found) ledger
  rw [hlower] at hkept
  exact ⟨hkept.addAll plan.references, blocks, hplan.enabled, hplan.loweredFrom, hplan.external⟩

/-- A screen that cannot be lowered registers nothing. -/
theorem screen_error {failure : Failure}
    (hrun : (Lowering.screen screen options).run ledger = (.error failure, after)) :
    ledger.SameReferences after := by
  cases refused_of_run hrun with
  | enabled | mode | scopes => exact refl_of Ledger.SameReferences ledger
  | @lowered blocks found mode _ _ hlower =>
      unfold Compile.run at hlower
      have hkept := blocksFrom_moves mode options.isNative screen.instanceName 0
        (blocks.zip found) ledger
      rw [hlower] at hkept
      exact hkept

end

end Lowering

end ScreenFlow
