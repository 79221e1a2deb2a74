import ScreenFlow.Proofs.Effect.Agreeing
import ScreenFlow.Proofs.Lowering.Disabled
import ScreenFlow.Proofs.Lowering.Fields

/-!
Blocks that read alike: whatever is read of one is read of the other, although they may be called
differently and have their payloads written differently.  Screens of such blocks are lowered
together or not at all, and their plans differ in the labels of their blocks only.
-/

namespace ScreenFlow

/-- The same is read of both blocks, or nothing of either. -/
structure Block.ReadAlike (first second : Block) : Prop where
  type : first.type = second.type
  order : first.order = second.order
  enabled : first.enabled = second.enabled
  wrapInTestStep : first.wrapInTestStep = second.wrapInTestStep
  testStepName : first.testStepName = second.testStepName
  sourceCode : first.sourceCode = second.sourceCode
  uiChecks : SameResults first.uiChecks second.uiChecks
  callData : SameResults first.callData second.callData
  dataAssertions : SameResults first.dataAssertions second.dataAssertions
  storedNames : SameResults first.storedNames second.storedNames

namespace Block

theorem ReadAlike.symm {first second : Block} (hread : first.ReadAlike second) :
    second.ReadAlike first where
  type := hread.type.symm
  order := hread.order.symm
  enabled := hread.enabled.symm
  wrapInTestStep := hread.wrapInTestStep.symm
  testStepName := hread.testStepName.symm
  sourceCode := hread.sourceCode.symm
  uiChecks := hread.uiChecks.symm
  callData := hread.callData.symm
  dataAssertions := hread.dataAssertions.symm
  storedNames := hread.storedNames.symm

theorem payload_eq_ok_iff {α : Type} {block : Block} {title : String}
    {read : Value → Reading α} {data : Value} {result : α} :
    block.payload title read data = .ok result ↔ read data = .value result := by
  unfold payload
  cases read data <;> simp

/-- What a block stores follows from its payload, unless it is of a type without one. -/
theorem storedNames_sameResults {first second : Block} (htype : first.type = second.type)
    (hui : SameResults first.uiChecks second.uiChecks)
    (hcall : SameResults first.callData second.callData)
    (hother : first.type ≠ BlockType.functionCall → first.type ≠ BlockType.uiAssertion →
      filled (Value.orNull (first.data.lookup "storeAs")).string? =
        filled (Value.orNull (second.data.lookup "storeAs")).string?) :
    SameResults first.storedNames second.storedNames := by
  unfold storedNames
  rw [← htype]
  split_ifs with hcalls hchecks
  · exact hcall.andThen _
  · exact hui.andThen _
  · rw [hother hcalls hchecks]
    exact .refl _

/-- The name a block is given in messages is not read of it, nor the one it has in comments. -/
theorem readAlike_of_unnamed {first second : Block}
    (hunnamed : { first with id := none, label := none } =
      { second with id := none, label := none }) : first.ReadAlike second := by
  obtain ⟨_, type, _, order, enabled, data, code, wrapInTestStep, testStepName, assertions⟩ := first
  obtain ⟨_, _, _, _, _, _, _, _, _, _⟩ := second
  cases hunnamed
  have hpayload {α : Type} (title : String) (read : Value → Reading α) (payload : Value)
      (one other : Block) :
      SameResults (one.payload title read payload) (other.payload title read payload) :=
    .of_iff fun result => payload_eq_ok_iff.trans payload_eq_ok_iff.symm
  refine ⟨rfl, rfl, rfl, rfl, rfl, rfl, hpayload _ _ _ _ _, hpayload _ _ _ _ _, ?_,
    storedNames_sameResults rfl (hpayload _ _ _ _ _) (hpayload _ _ _ _ _) fun _ _ => rfl⟩
  unfold dataAssertions
  dsimp only
  split
  · exact .mapM (List.forall₂_same.mpr fun assertion _ => hpayload _ _ _ _ _)
  · exact .refl _

end Block

namespace Lowering

open Effect

/-- The block without its label. -/
def unlabelled (lowered : LoweredBlock) : LoweredBlock :=
  { lowered with label := "" }

/-- The blocks are lowered to the same, each under its own heading. -/
structure LoweredAlike (first second : Block) (lowered other : LoweredBlock) : Prop where
  same : unlabelled lowered = unlabelled other
  label : lowered.label = first.heading
  otherLabel : other.label = second.heading

section Blocks

variable {first second : Block} (hread : first.ReadAlike second)
include hread

theorem start_alike {base : LoweredBlock} (hstart : start first = .ok base) :
    ∃ other, start second = .ok other ∧ LoweredAlike first second base other := by
  obtain ⟨names, hnames, hstart⟩ := exists_of_bind_eq_ok hstart
  cases hstart
  unfold start
  rw [hread.storedNames.ok hnames, ← hread.type, ← hread.order]
  exact ⟨_, rfl, rfl, rfl, rfl⟩

omit hread in
theorem LoweredAlike.complete {base other : LoweredBlock}
    (halike : LoweredAlike first second base other) (content : Content) :
    LoweredAlike first second (complete base content) (complete other content) where
  same := congrArg (Lowering.complete · content) halike.same
  label := halike.label
  otherLabel := halike.otherLabel

theorem codeLines_readAlike : codeLines first = codeLines second := by
  funext place
  unfold codeLines
  rw [hread.sourceCode, hread.testStepName, hread.wrapInTestStep]

/-- The same is put into the starts of blocks that read alike. -/
theorem contentOf_readAlike {mode : EmissionMode} {place : Place} {content : Content}
    (hcontent : contentOf mode first place = .ok content) :
    contentOf mode second place = .ok content := by
  unfold contentOf kindOf unsupportedLine at hcontent ⊢
  rw [← hread.type, ← codeLines_readAlike hread]
  split_ifs at hcontent ⊢
  · obtain ⟨data, hdata, hcontent⟩ := exists_of_bind_eq_ok hcontent
    rwa [hread.callData.ok hdata]
  · exact hcontent
  · obtain ⟨data, hdata, hcontent⟩ := exists_of_bind_eq_ok hcontent
    rwa [hread.uiChecks.ok hdata]
  · obtain ⟨assertions, hdata, hcontent⟩ := exists_of_bind_eq_ok hcontent
    rwa [hread.dataAssertions.ok hdata]
  all_goals exact hcontent

/-- A block is lowered like any that reads alike, also in a scope that is alike. -/
theorem block_readAlike (mode : EmissionMode) (place : Place) {scope : Scope}
    (hscope : place.scope.Alike scope) :
    Follows Ledger.SameReferences Ledger.SameReferences (LoweredAlike first second)
      (Lowering.block mode first place) (Lowering.block mode second (place.within scope)) := by
  rw [← block_alike hscope mode second place]
  refine follows_of_results fun lowered hresult => ?_
  obtain ⟨base, content, hstart, hcontent, rfl⟩ := resultOf_eq_ok_iff.mp hresult
  obtain ⟨other, hother, halike⟩ := start_alike hread hstart
  exact ⟨_, resultOf_eq_ok_iff.mpr
    ⟨other, content, hother, contentOf_readAlike hread hcontent, rfl⟩, halike.complete content⟩

theorem callReference_readAlike : callReference first = callReference second := by
  funext object
  unfold callReference
  rw [hread.callData.toOption]

theorem hasCustomCode_readAlike :
    ModeDecision.hasCustomCode first = ModeDecision.hasCustomCode second := by
  unfold ModeDecision.hasCustomCode
  rw [hread.type, hread.sourceCode]

theorem hasFunctionAssertions_readAlike :
    SameResults (ModeDecision.hasFunctionAssertions first)
      (ModeDecision.hasFunctionAssertions second) := by
  unfold ModeDecision.hasFunctionAssertions
  rw [← hread.type]
  split
  · exact hread.uiChecks.andThen _
  · exact .refl _

theorem isExternalCall_readAlike (own : String) :
    SameResults (ModeDecision.isExternalCall first own)
      (ModeDecision.isExternalCall second own) := by
  unfold ModeDecision.isExternalCall
  rw [← hread.type]
  split
  · exact hread.callData.andThen _
  · exact .refl _

theorem tally_add_readAlike (tally : Screen.Tally) :
    SameResults (tally.add first) (tally.add second) := by
  unfold Screen.Tally.add
  rw [← hread.type, ← hread.enabled]
  split_ifs
  · exact .refl _
  · exact hread.uiChecks.andThen _
  · exact .refl _
  · exact .refl _

end Blocks

/-! The blocks of a screen. -/

section Lists

variable {blocks others : List Block} (hread : List.Forall₂ Block.ReadAlike blocks others)
include hread

omit hread in
theorem forall₂_readAlike_symm (hread : List.Forall₂ Block.ReadAlike blocks others) :
    List.Forall₂ Block.ReadAlike others blocks :=
  (hread.imp fun _ _ => Block.ReadAlike.symm).flip

theorem stores_of_readAlike {steps : List Step} {name : String}
    (hstores : Scope.Stores steps blocks name) : Scope.Stores steps others name := by
  rcases hstores with hstep | ⟨block, hblock, names, hnames, hname⟩
  · exact .inl hstep
  · obtain ⟨index, hlt, rfl⟩ := List.mem_iff_getElem.mp hblock
    have hother : index < others.length := hread.length_eq ▸ hlt
    have halike : (blocks[index]).ReadAlike others[index] := hread.get hlt hother
    exact .inr ⟨others[index], List.getElem_mem hother, names, halike.storedNames.ok hnames, hname⟩

/-- After blocks that read alike, every name is read from the same object. -/
theorem build_readAlike (steps : List Step) (fields : List String) :
    Agree Scope.Alike (Scope.build steps blocks fields) (Scope.build steps others fields) := by
  have hbuild {first second : List Block} (halike : List.Forall₂ Block.ReadAlike first second)
      (scope : Scope) (hscope : Scope.build steps first fields = .ok scope) :
      ∃ other, Scope.build steps second fields = .ok other ∧ scope.Alike other := by
    obtain ⟨found, hfound, -⟩ := exists_of_bind_eq_ok hscope
    have hnames := Scope.storedNames_of_ofBlocks_eq_ok hfound
    obtain ⟨stored, hother, -⟩ := @Scope.build_ok steps second fields fun block hmem => by
      obtain ⟨index, hlt, rfl⟩ := List.mem_iff_getElem.mp hmem
      have hfirst : index < first.length := halike.length_eq ▸ hlt
      obtain ⟨names, hnames⟩ := hnames first[index] (List.getElem_mem hfirst)
      exact ⟨names, (halike.get hfirst hlt).storedNames.ok hnames⟩
    refine ⟨_, hother, fun name => ?_⟩
    have hroot : scope.rootOf name = Scope.storedRoot ↔
        Scope.rootOf (stored ++ Scope.ofFields fields) name = Scope.storedRoot := by
      rw [Scope.rootOf_build_iff hscope, Scope.rootOf_build_iff hother]
      exact ⟨stores_of_readAlike halike, stores_of_readAlike (forall₂_readAlike_symm halike)⟩
    by_cases hstored : scope.rootOf name = Scope.storedRoot
    · rw [hstored, hroot.mp hstored]
    · rw [Scope.rootOf_eq_contextRoot_iff.mpr hstored,
        Scope.rootOf_eq_contextRoot_iff.mpr (hroot.not.mp hstored)]
  refine .of_exists (hbuild hread) fun scope hscope => ?_
  obtain ⟨other, hother, -⟩ := hbuild (forall₂_readAlike_symm hread) scope hscope
  exact ⟨other, hother⟩

theorem scopes_readAlike (steps : List Step) (fields : List String) :
    Agree (List.Forall₂ Scope.Alike) (scopes steps fields blocks)
      (scopes steps fields others) := by
  unfold scopes
  rw [← hread.length_eq]
  exact .mapM (List.forall₂_same.mpr fun position _ =>
    build_readAlike (List.forall₂_take position hread) steps fields)

theorem anyItem_readAlike {test : Block → Except Failure Bool}
    (htest : ∀ {first second : Block}, first.ReadAlike second →
      SameResults (test first) (test second)) :
    SameResults (ModeDecision.anyItem test blocks) (ModeDecision.anyItem test others) := by
  induction hread with
  | nil => exact .refl _
  | cons hfirst _ ih =>
      refine (htest hfirst).bind fun found => ?_
      cases found with
      | true => exact .refl _
      | false => exact ih

theorem rawReason_readAlike (own : String) (forceRaw : Bool) :
    SameResults (ModeDecision.rawReason blocks own forceRaw)
      (ModeDecision.rawReason others own forceRaw) := by
  have hcode : blocks.any ModeDecision.hasCustomCode = others.any ModeDecision.hasCustomCode := by
    induction hread with
    | nil => rfl
    | cons hfirst _ ih => rw [List.any_cons, List.any_cons, hasCustomCode_readAlike hfirst, ih]
  unfold ModeDecision.rawReason
  rw [← hcode]
  split_ifs
  · exact .refl _
  · exact .refl _
  · refine (anyItem_readAlike hread hasFunctionAssertions_readAlike).bind fun byFunction => ?_
    split_ifs
    · exact .refl _
    · exact (anyItem_readAlike hread fun halike => isExternalCall_readAlike halike own).andThen _

theorem select_readAlike (own : String) (isNative forceRaw : Bool) :
    SameResults (ModeDecision.select blocks own isNative forceRaw)
      (ModeDecision.select others own isNative forceRaw) :=
  (rawReason_readAlike hread own forceRaw).andThen _

theorem tally_readAlike (tally : Screen.Tally) :
    SameResults (blocks.foldlM Screen.Tally.add tally)
      (others.foldlM Screen.Tally.add tally) := by
  induction hread generalizing tally with
  | nil => exact .refl _
  | cons hfirst _ ih =>
      rw [List.foldlM_cons, List.foldlM_cons]
      exact (tally_add_readAlike hfirst tally).bind ih

theorem callReferences_readAlike {lowered results : List LoweredBlock}
    (hcalls : lowered.map LoweredBlock.external = results.map LoweredBlock.external) :
    callReferences blocks lowered = callReferences others results := by
  rw [callReferences_eq_of_externals hcalls]
  clear hcalls
  induction hread generalizing results with
  | nil => rfl
  | cons hfirst _ ih =>
      cases results with
      | nil => rfl
      | cons result rest =>
          unfold callReferences at ih ⊢
          rw [List.zip_cons_cons, List.zip_cons_cons, List.filterMap_cons, List.filterMap_cons,
            callReference_readAlike hfirst, ih]

end Lists

/-- Blocks that read alike, each in a scope that is like that of the other. -/
abbrev PlacedAlike (item other : Block × Scope) : Prop :=
  item.1.ReadAlike other.1 ∧ item.2.Alike other.2

theorem blocksFrom_readAlike (mode : EmissionMode) (isNative : Bool) (object : String)
    (position : Nat) {items others : List (Block × Scope)}
    (halike : List.Forall₂ PlacedAlike items others) :
    Follows Ledger.SameReferences Ledger.SameReferences
      (fun lowered results =>
        lowered.map unlabelled = results.map unlabelled ∧
          lowered.map LoweredBlock.label = (items.map Prod.fst).map Block.heading ∧
          results.map LoweredBlock.label = (others.map Prod.fst).map Block.heading)
      (blocksFrom mode isNative object position items)
      (blocksFrom mode isNative object position others) := by
  induction halike generalizing position with
  | nil => exact .pure ⟨rfl, rfl, rfl⟩
  | @cons item other items others hfirst _ ih =>
      refine (block_readAlike hfirst.1 mode { isNative, object, scope := item.2, position }
        hfirst.2).bind fun lowered result hlowered => ?_
      refine (ih (position + 1)).bind fun rest results hrest => .pure ?_
      simp only [List.map_cons, hlowered.same, hlowered.label, hlowered.otherLabel, hrest.1,
        hrest.2.1, hrest.2.2, and_self]

/-! Screens. -/

theorem forall₂_byOrder {α : Type} {order : α → Binary64} {R : α → α → Prop}
    (horder : ∀ a b, R a b → order a = order b) {items others : List α}
    (hall : List.Forall₂ R items others) :
    List.Forall₂ R (Screen.byOrder order items) (Screen.byOrder order others) := by
  -- the pairs are sorted alike by the orders of their first and of their second parts
  have hpairs : ∀ pair ∈ items.zip others, R pair.1 pair.2 := fun pair hmem =>
    List.forall₂_zip hall hmem
  have hfirst := @List.map_mergeSort (α × α) α
    (fun a b => !(order b.1).lt (order a.1)) (fun a b => !(order b).lt (order a)) Prod.fst
    (items.zip others) fun _ _ _ _ => rfl
  have hsecond := @List.map_mergeSort (α × α) α
    (fun a b => !(order b.1).lt (order a.1)) (fun a b => !(order b).lt (order a)) Prod.snd
    (items.zip others) fun a ha b hb => by
      rw [horder _ _ (hpairs a ha), horder _ _ (hpairs b hb)]
  rw [List.map_fst_zip hall.length_eq.le] at hfirst
  rw [List.map_snd_zip hall.length_eq.ge] at hsecond
  rw [Screen.byOrder, Screen.byOrder, ← hfirst, ← hsecond, List.forall₂_map_left_iff,
    List.forall₂_map_right_iff]
  exact List.forall₂_same.mpr fun pair hmem => hpairs pair (List.mem_mergeSort.mp hmem)

end Lowering

/-- What is told of the screen itself is the same, and its blocks read alike. -/
structure Screen.ReadAlike (first second : Screen) : Prop where
  screenKey : first.screenKey = second.screenKey
  object : first.object = second.object
  screen : first.screen = second.screen
  description : first.description = second.description
  navigation : first.navigation = second.navigation
  blocks : Agree (List.Forall₂ Block.ReadAlike) first.effectiveBlocks second.effectiveBlocks

theorem Screen.ReadAlike.symm {first second : Screen} (hread : first.ReadAlike second) :
    second.ReadAlike first where
  screenKey := hread.screenKey.symm
  object := hread.object.symm
  screen := hread.screen.symm
  description := hread.description.symm
  navigation := hread.navigation.symm
  blocks := hread.blocks.symm.mono fun _ _ => Lowering.forall₂_readAlike_symm

theorem Screen.ReadAlike.instanceName {first second : Screen} (hread : first.ReadAlike second) :
    first.instanceName = second.instanceName := by
  unfold Screen.instanceName
  rw [hread.object, hread.screen, hread.screenKey]

theorem Screen.ReadAlike.ownReference? {first second : Screen} (hread : first.ReadAlike second) :
    Lowering.ownReference? first = Lowering.ownReference? second := by
  unfold Lowering.ownReference? Screen.className
  rw [hread.instanceName, hread.object, hread.screen]

namespace Lowering

open Effect

theorem enabledBlocks_agree {first second : Screen} {R : Block → Block → Prop}
    (hread : ∀ block other, R block other → block.ReadAlike other)
    (hblocks : Agree (List.Forall₂ R) first.effectiveBlocks second.effectiveBlocks) :
    Agree (List.Forall₂ R) (enabledBlocks first) (enabledBlocks second) := by
  refine hblocks.bind fun all others hall => .done ?_
  refine forall₂_byOrder (fun block other halike => (hread block other halike).order) ?_
  refine List.rel_filter (fun block other halike => ?_) hall
  change block.enabled = true ↔ other.enabled = true
  rw [(hread block other halike).enabled]

theorem summary_readAlike {first second : Screen}
    (hblocks : Agree (List.Forall₂ Block.ReadAlike) first.effectiveBlocks second.effectiveBlocks) :
    SameResults first.summary second.summary :=
  hblocks.bind fun _ _ hall => (tally_readAlike hall {}).andThen _

/-- The plans are the same but for the labels of their blocks. -/
structure PlansAlike (plan other : EmissionPlan) : Prop where
  same : { plan with blocks := [] } = { other with blocks := [] }
  blocks : plan.blocks.map unlabelled = other.blocks.map unlabelled

theorem unlabelled_eq_iff {lowered other : LoweredBlock} (hlabel : lowered.label = other.label) :
    unlabelled lowered = unlabelled other ↔ lowered = other := by
  refine ⟨fun hsame => ?_, congrArg unlabelled⟩
  have hfirst : { unlabelled lowered with label := lowered.label } = lowered := rfl
  rw [← hfirst, hsame, hlabel]
  rfl

theorem map_external_of_unlabelled {lowered results : List LoweredBlock}
    (hsame : lowered.map unlabelled = results.map unlabelled) :
    lowered.map LoweredBlock.external = results.map LoweredBlock.external := by
  have hmaps := congrArg (List.map LoweredBlock.external) hsame
  rwa [List.map_map, List.map_map] at hmaps

theorem zip_placedAlike {blocks others : List Block} {found founds : List Scope}
    (hblocks : List.Forall₂ Block.ReadAlike blocks others)
    (hscopes : List.Forall₂ Scope.Alike found founds) :
    List.Forall₂ PlacedAlike (blocks.zip found) (others.zip founds) := by
  induction hblocks generalizing found founds with
  | nil => exact .nil
  | cons hfirst _ ih =>
      cases hscopes with
      | nil => exact .nil
      | cons hscope hrest => exact .cons ⟨hfirst, hscope⟩ (ih hrest)

/-- Screens that read alike are lowered together, to plans that are the same but for the labels;
these are the headings of the blocks. -/
theorem screen_readAlike {first second : Screen} (hread : first.ReadAlike second)
    (options : Options) {blocks others : List Block} (hblocks : enabledBlocks first = .ok blocks)
    (hothers : enabledBlocks second = .ok others)
    (hall : List.Forall₂ Block.ReadAlike blocks others) :
    Follows Ledger.SameReferences Ledger.SameReferences
      (fun plan other => PlansAlike plan other ∧
        plan.blocks.map LoweredBlock.label = blocks.map Block.heading ∧
        other.blocks.map LoweredBlock.label = others.map Block.heading)
      (Lowering.screen first options) (Lowering.screen second options) := by
  intro ledger otherLedger halike plan after hrun
  obtain ⟨_, found, middle, hmade, rfl⟩ := exists_planned_of_run hrun
  cases hblocks.symm.trans hmade.enabled
  -- the other screen has the same mode, scopes that are alike, and blocks that are lowered alike
  have hdecisionOther := (select_readAlike hall _ _ _).ok hmade.decision
  obtain ⟨founds, hscopesOther, hfounds⟩ :=
    (scopes_readAlike hall options.steps options.fields).exists_ok hmade.scopes
  obtain ⟨results, last, hresults, ⟨hsame, hlabels, hlabelsOther⟩, hlast⟩ :=
    blocksFrom_readAlike plan.decision.mode options.isNative first.instanceName 0
      (zip_placedAlike hall hfounds) ledger otherLedger halike _ _ hmade.lowered
  rw [hread.instanceName] at hresults hdecisionOther
  obtain ⟨other, hmadeOther, hdecided, rfl⟩ :=
    exists_planned options hothers hdecisionOther hscopesOther hresults
  have howns : plan.own = other.own := by
    rw [hmade.own, hmadeOther.own, hread.ownReference?]
  have hexternal : plan.external = other.external := by
    rw [hmade.external, hmadeOther.external, howns,
      callReferences_readAlike hall (map_external_of_unlabelled hsame)]
  have hsummaries : plan.summary = other.summary :=
    Except.ok.inj
      (((summary_readAlike hread.blocks).ok hmade.summary).symm.trans hmadeOther.summary)
  have hplans : PlansAlike plan other := by
    refine ⟨?_, hsame⟩
    simp only [hmade.screenKey, hmadeOther.screenKey, hread.screenKey, hdecided,
      hmade.instanceName, hmadeOther.instanceName, hread.instanceName, hexternal, howns,
      hsummaries, hmade.description, hmadeOther.description, hread.description,
      hmade.navigation, hmadeOther.navigation, hread.navigation]
  refine ⟨other, _, hmadeOther.run, ⟨hplans, ?_, ?_⟩, ?_⟩
  · rw [hlabels, List.map_fst_zip (scopes_length hmade.scopes).ge]
  · rw [hlabelsOther, List.map_fst_zip (scopes_length hscopesOther).ge]
  · have hreferences : plan.references = other.references := by
      rw [EmissionPlan.references, EmissionPlan.references, hexternal, howns]
    rw [← hreferences]
    exact hlast.addAll plan.references

/-- The results of lowering screens that read alike agree.  Where more is known of each two blocks,
it is known of those that the plans have their labels from. -/
theorem screen_agree {first second : Screen} {R : Block → Block → Prop}
    (hread : ∀ block other, R block other → block.ReadAlike other)
    (halike : first.ReadAlike second)
    (hblocks : Agree (List.Forall₂ R) first.effectiveBlocks second.effectiveBlocks)
    (options : Options) {ledger other : Ledger} (hledger : ledger.SameReferences other) :
    Agree
      (fun plan another => PlansAlike plan another ∧ ∃ blocks others, List.Forall₂ R blocks others ∧
        plan.blocks.map LoweredBlock.label = blocks.map Block.heading ∧
        another.blocks.map LoweredBlock.label = others.map Block.heading)
      ((Lowering.screen first options).run ledger).1
      ((Lowering.screen second options).run other).1 := by
  have henabled := enabledBlocks_agree hread hblocks
  cases hfirst : enabledBlocks first with
  | error failure =>
      cases hsecond : enabledBlocks second with
      | error another =>
          unfold Lowering.screen
          rw [hfirst, hsecond]
          exact .failed failure another
      | ok others =>
          rw [hfirst, hsecond] at henabled
          cases henabled
  | ok blocks =>
      obtain ⟨others, hothers, hall⟩ := henabled.exists_ok hfirst
      have hreadAll := hall.imp fun block another => hread block another
      have hforward := screen_readAlike halike options hfirst hothers hreadAll
      have hback := screen_readAlike halike.symm options hothers hfirst
        (forall₂_readAlike_symm hreadAll)
      exact (hforward.agree hback hledger hledger.symm).mono
        fun plan another hplans => ⟨hplans.1, blocks, others, hall, hplans.2⟩

theorem eq_of_map_unlabelled {lowered results : List LoweredBlock}
    (hsame : lowered.map unlabelled = results.map unlabelled)
    (hlabels : lowered.map LoweredBlock.label = results.map LoweredBlock.label) :
    lowered = results := by
  induction lowered generalizing results with
  | nil => exact (List.map_eq_nil_iff.mp hsame.symm).symm
  | cons first rest ih =>
      cases results with
      | nil => cases hsame
      | cons result others =>
          rw [List.map_cons, List.map_cons, List.cons.injEq] at hsame hlabels
          rw [(unlabelled_eq_iff hlabels.1).mp hsame.1, ih hsame.2 hlabels.2]

/-- Plans whose labels are the same, too, are the same. -/
theorem PlansAlike.eq {plan other : EmissionPlan} (halike : PlansAlike plan other)
    (hlabels : plan.blocks.map LoweredBlock.label = other.blocks.map LoweredBlock.label) :
    plan = other := by
  have hblocks := eq_of_map_unlabelled halike.blocks hlabels
  have hplan : { ({ plan with blocks := [] } : EmissionPlan) with blocks := plan.blocks } = plan :=
    rfl
  rw [← hplan, halike.same, hblocks]

end Lowering

end ScreenFlow
