import ScreenFlow.Proofs.Lowering.Decision

/-!
Screens of blocks of the four known types on a browser.  The mode is raw just when some enabled block
needs it, and nothing that is emitted in structured mode is in need of the raw one: no call on another
object, no code, no check on the result of a function.
-/

namespace ScreenFlow

namespace Lowering

open Effect
open UiChecks (Item)

/-- The type of the block is a known one, and what the block carries for it can be read. -/
inductive Documented (block : Block) : Prop
  | checks (data : UiChecks) (htype : block.type = BlockType.uiAssertion)
      (hdata : block.uiChecks = .ok data)
  | call (data : CallData) (htype : block.type = BlockType.functionCall)
      (hdata : block.callData = .ok data)
  | comparisons (data : List DataAssertion) (htype : block.type = BlockType.dataAssertion)
      (hdata : block.dataAssertions = .ok data)
  | code (htype : block.type = BlockType.customCode)

/-- The block does what only the raw mode is for. -/
inductive NeedsRaw (own : String) (block : Block) : Prop
  | code (htype : block.type = BlockType.customCode) (hcode : ¬isBlankText block.sourceCode)
  | functions (data : UiChecks) (htype : block.type = BlockType.uiAssertion)
      (hdata : block.uiChecks = .ok data)
      (hfunctions : data.truthy ≠ [] ∨ data.falsy ≠ [] ∨ data.assertions ≠ [])
  | call (data : CallData) (htype : block.type = BlockType.functionCall)
      (hdata : block.callData = .ok data) (hself : data.objectName ∉ ModeDecision.selfNames)
      (hother : data.objectName ≠ own)

theorem hasFunctionAssertions_iff (data : UiChecks) :
    data.hasFunctionAssertions = true ↔
      data.truthy ≠ [] ∨ data.falsy ≠ [] ∨ data.assertions ≠ [] := by
  simp only [UiChecks.hasFunctionAssertions, Bool.or_eq_true, Bool.not_eq_true',
    List.isEmpty_eq_false_iff]
  tauto

theorem functions_of_type_ne {block : Block} (htype : block.type ≠ BlockType.uiAssertion) :
    ModeDecision.hasFunctionAssertions block = .ok false := by
  rw [ModeDecision.hasFunctionAssertions, if_neg htype]
  rfl

theorem functions_of_type {block : Block} {data : UiChecks}
    (htype : block.type = BlockType.uiAssertion) (hdata : block.uiChecks = .ok data) :
    ModeDecision.hasFunctionAssertions block = .ok data.hasFunctionAssertions := by
  rw [ModeDecision.hasFunctionAssertions, if_pos htype, hdata]
  rfl

theorem isExternalCall_of_type_ne {block : Block} (own : String)
    (htype : block.type ≠ BlockType.functionCall) :
    ModeDecision.isExternalCall block own = .ok false := by
  rw [ModeDecision.isExternalCall, if_neg htype]
  rfl

theorem isExternalCall_of_type {block : Block} {data : CallData} (own : String)
    (htype : block.type = BlockType.functionCall) (hdata : block.callData = .ok data) :
    ModeDecision.isExternalCall block own =
      .ok (!ModeDecision.selfNames.contains data.objectName && data.objectName != own) := by
  rw [ModeDecision.isExternalCall, if_pos htype, hdata]
  rfl

/-- What is looked at to decide on the mode and what needs the raw one agree. -/
theorem plain_iff {own : String} {block : Block} (hdocumented : Documented block) :
    ModeDecision.IsPlain own block ↔ ¬NeedsRaw own block := by
  constructor
  · rintro ⟨hcode, hfunctions, hcall⟩ hneeds
    cases hneeds with
    | code htype hsource => simp [ModeDecision.hasCustomCode, htype, hsource] at hcode
    | functions data htype hdata hsome =>
        rw [functions_of_type htype hdata, (hasFunctionAssertions_iff data).mpr hsome] at hfunctions
        cases hfunctions
    | call data htype hdata hself hother =>
        rw [isExternalCall_of_type own htype hdata] at hcall
        simp [hself, hother] at hcall
  · intro hneeds
    have hcode : ModeDecision.hasCustomCode block = false := by
      by_contra hcode
      simp only [ModeDecision.hasCustomCode, Bool.not_eq_false, Bool.and_eq_true,
        beq_iff_eq, Bool.not_eq_true'] at hcode
      exact hneeds (.code hcode.1 (by simp [hcode.2]))
    cases hdocumented with
    | checks data htype hdata =>
        refine ⟨hcode, ?_, isExternalCall_of_type_ne own (by rw [htype]; decide)⟩
        rw [functions_of_type htype hdata, Except.ok.injEq, ← Bool.not_eq_true,
          hasFunctionAssertions_iff]
        exact fun hsome => hneeds (.functions data htype hdata hsome)
    | call data htype hdata =>
        refine ⟨hcode, functions_of_type_ne (by rw [htype]; decide), ?_⟩
        rw [isExternalCall_of_type own htype hdata, Except.ok.injEq, ← Bool.not_eq_true]
        intro hexternal
        simp only [Bool.and_eq_true, Bool.not_eq_true', List.contains_eq_mem,
          decide_eq_false_iff_not, bne_iff_ne] at hexternal
        exact hneeds (.call data htype hdata hexternal.1 hexternal.2)
    | comparisons data htype hdata =>
        exact ⟨hcode, functions_of_type_ne (by rw [htype]; decide),
          isExternalCall_of_type_ne own (by rw [htype]; decide)⟩
    | code htype =>
        exact ⟨hcode, functions_of_type_ne (by rw [htype]; decide),
          isExternalCall_of_type_ne own (by rw [htype]; decide)⟩

/-! What is emitted in structured mode. -/

/-- Kinds of checks on the results of functions. -/
def resultKinds : List String := ["truthy", "falsy", "assertion"]

/-- The block asks for nothing that only the raw mode offers. -/
structure IsStructured (lowered : LoweredBlock) : Prop where
  external : lowered.external = none
  checks : ∀ check ∈ lowered.checks, ∀ kind ∈ resultKinds, ("check", Script.quote kind) ∉ check

theorem forall_mem_of_mapM_eq_ok {α β : Type} {f : α → Except Failure β} {Result : β → Prop}
    {items : List α} {results : List β} (hf : ∀ a ∈ items, ∀ b, f a = .ok b → Result b)
    (hmap : items.mapM f = .ok results) : ∀ b ∈ results, Result b := by
  have hall := forall₂_of_mapM_eq_ok hmap
  clear hmap
  induction hall with
  | nil => simp
  | cons hfirst _ ih =>
      obtain ⟨hhead, htail⟩ := List.forall_mem_cons.mp hf
      exact List.forall_mem_cons.mpr ⟨hhead _ hfirst, ih htail⟩

/-- The check is of no other kind than its first entry says. -/
theorem not_mem_of_kind {kind other : String} {entries : Check}
    (hkind : Script.quote other ≠ Script.quote kind) (hrest : ∀ entry ∈ entries, entry.1 ≠ "check") :
    ("check", Script.quote other) ∉ ("check", Script.quote kind) :: entries := by
  rw [List.mem_cons, not_or, Prod.mk.injEq]
  exact ⟨fun heq => hkind heq.2, fun hmem => hrest _ hmem rfl⟩

theorem selectorEntries_names (scope : Scope) (selector : Selector) :
    ∀ entry ∈ selectorEntries scope selector, entry.1 ≠ "check" := by
  unfold selectorEntries selectEntries
  cases selector.selection.variableName? <;> cases selector.selection.index? <;> simp

theorem elementCheck_kinds {scope : Scope} {kind name : String} {check : Check}
    (hcheck : elementCheck scope kind name = .ok check)
    (hkind : ∀ other ∈ resultKinds, Script.quote other ≠ Script.quote kind) :
    ∀ other ∈ resultKinds, ("check", Script.quote other) ∉ check := by
  obtain ⟨selector, -, hcheck⟩ := exists_of_bind_eq_ok hcheck
  cases hcheck
  exact fun other hmem => not_mem_of_kind (hkind other hmem) (selectorEntries_names scope selector)

theorem textCheck_kinds {scope : Scope} {kind : String} {item : String × Value} {check : Check}
    (hcheck : textCheck scope kind item = .ok check)
    (hkind : ∀ other ∈ resultKinds, Script.quote other ≠ Script.quote kind) :
    ∀ other ∈ resultKinds, ("check", Script.quote other) ∉ check := by
  obtain ⟨element, helement, hcheck⟩ := exists_of_bind_eq_ok hcheck
  cases hcheck
  intro other hmem
  rw [List.mem_append, not_or]
  exact ⟨elementCheck_kinds helement hkind other hmem, by simp⟩

/-- An item that is not on the result of a function has a descriptor of its own kind. -/
theorem itemCheck_kinds {scope : Scope} {data : UiChecks} {item : Item} {check : Check}
    (hplain : data.truthy = [] ∧ data.falsy = [] ∧ data.assertions = []) (hitem : item ∈ data.items)
    (hcheck : itemCheck scope item = .ok check) :
    ∀ kind ∈ resultKinds, ("check", Script.quote kind) ∉ check := by
  cases item with
  | visible name | hidden name => exact elementCheck_kinds hcheck (by decide)
  | text name expected | contains name expected => exact textCheck_kinds hcheck (by decide)
  | truthy name | falsy name | assertion assertion => simp [UiChecks.items, hplain] at hitem

theorem uiContent_kinds {place : Place} {data : UiChecks} {content : Content}
    (hcontent : uiContent .structured place data = .ok content)
    (hplain : data.truthy = [] ∧ data.falsy = [] ∧ data.assertions = []) :
    ∀ check ∈ content.checks, ∀ kind ∈ resultKinds, ("check", Script.quote kind) ∉ check := by
  obtain ⟨checks, hchecks, hcontent⟩ := exists_of_bind_eq_ok hcontent
  cases hcontent
  rw [uiCheckEntries_eq] at hchecks
  exact forall_mem_of_mapM_eq_ok (fun _ hitem _ => itemCheck_kinds hplain hitem) hchecks

theorem dataCheck_kinds (scope : Scope) (assertion : DataAssertion) :
    ∀ other ∈ resultKinds, ("check", Script.quote other) ∉ dataCheck scope assertion := by
  have hkind : ∀ other ∈ resultKinds, Script.quote other ≠ Script.quote "data" := by decide
  intro other hmem
  refine not_mem_of_kind (hkind other hmem) ?_
  cases assertion.right <;> simp

/-- What becomes of a plain block in structured mode. -/
theorem block_isStructured {own : String} {block : Block} (hdocumented : Documented block)
    (hplain : ModeDecision.IsPlain own block) (place : Place) (hown : place.object = own) :
    Returns (Lowering.block .structured block place) IsStructured := by
  subst hown
  intro before lowered after hrun
  obtain ⟨base, content, -, hcontent, rfl⟩ := resultOf_eq_ok_iff.mp (resultOf_of_run hrun)
  cases hdocumented with
  | checks data htype hdata =>
      obtain ⟨found, hfound, hcontent⟩ := (contentOf_ui_iff (kindOf_of_type htype rfl)).mp hcontent
      cases hfound.symm.trans hdata
      have hfunctions := hplain.functions
      rw [functions_of_type htype hdata, Except.ok.injEq, ← Bool.not_eq_true,
        hasFunctionAssertions_iff] at hfunctions
      simp only [ne_eq, not_or, not_not] at hfunctions
      exact ⟨uiContent_external hcontent, uiContent_kinds hcontent hfunctions⟩
  | call data htype hdata =>
      obtain ⟨found, hfound, rfl⟩ := (contentOf_call_iff (kindOf_of_type htype rfl)).mp hcontent
      cases hfound.symm.trans hdata
      have hcall := hplain.call
      rw [isExternalCall_of_type place.object htype hdata, Except.ok.injEq] at hcall
      refine ⟨Option.eq_none_iff_forall_not_mem.mpr fun object hcalled => ?_, ?_⟩
      · obtain ⟨hself, hother, rfl⟩ := callContent_external hcalled
        simp [hself, hother] at hcall
      · rw [complete, callContent_checks]
        simp
  | comparisons data htype hdata =>
      obtain ⟨found, -, rfl⟩ := (contentOf_data_iff (kindOf_of_type htype rfl)).mp hcontent
      exact ⟨rfl, List.forall_mem_map.mpr fun assertion _ => dataCheck_kinds place.scope assertion⟩
  | code htype =>
      rw [contentOf_code (kindOf_of_type htype rfl)] at hcontent
      cases hcontent
      exact ⟨rfl, by simp [complete]⟩

theorem blocksFrom_isStructured {isNative : Bool} {own : String} (position : Nat)
    {items : List (Block × Scope)}
    (hitems : ∀ item ∈ items, Documented item.1 ∧ ModeDecision.IsPlain own item.1) :
    Returns (blocksFrom .structured isNative own position items)
      fun lowered => ∀ result ∈ lowered, IsStructured result := by
  induction items generalizing position with
  | nil => exact .pure (by simp)
  | cons item rest ih =>
      obtain ⟨⟨hdocumented, hplain⟩, hrest⟩ := List.forall_mem_cons.mp hitems
      exact .bind (block_isStructured hdocumented hplain _ rfl) fun first hfirst =>
        .bind (ih (position + 1) hrest) fun others hothers =>
          .pure (List.forall_mem_cons.mpr ⟨hfirst, hothers⟩)

/-! Which screens can be lowered. -/

/-- The selectors in the checks of the block, if it has any, can be read. -/
def SelectorsRead (block : Block) : Prop :=
  ∀ data, block.type = BlockType.uiAssertion → block.uiChecks = .ok data → selectorsRead data = true

theorem Documented.start_ok {block : Block} (hdocumented : Documented block) :
    ∃ base, start block = .ok base := by
  have hnames : ∃ names, block.storedNames = .ok names := by
    unfold Block.storedNames
    cases hdocumented with
    | checks data htype hdata =>
        rw [htype, hdata]
        exact ⟨_, rfl⟩
    | call data htype hdata =>
        rw [htype, hdata]
        exact ⟨_, rfl⟩
    | comparisons data htype hdata =>
        rw [htype]
        exact ⟨_, rfl⟩
    | code htype =>
        rw [htype]
        exact ⟨_, rfl⟩
  obtain ⟨names, hnames⟩ := hnames
  exact ⟨_, by rw [start, hnames]; rfl⟩

/-- What a documented block puts into its start, when its selectors can be read. -/
theorem Documented.content_ok {block : Block} (hdocumented : Documented block)
    (hread : SelectorsRead block) (mode : EmissionMode) (place : Place) :
    ∃ content, contentOf mode block place = .ok content := by
  cases hdocumented with
  | checks data htype hdata =>
      obtain ⟨content, hcontent⟩ :=
        exists_of_isOk ((uiContent_isOk mode place data).trans (hread data htype hdata))
      exact ⟨content, (contentOf_ui_iff (kindOf_of_type htype rfl)).mpr ⟨data, hdata, hcontent⟩⟩
  | call data htype hdata =>
      exact ⟨_, (contentOf_call_iff (kindOf_of_type htype rfl)).mpr ⟨data, hdata, rfl⟩⟩
  | comparisons data htype hdata =>
      exact ⟨_, (contentOf_data_iff (kindOf_of_type htype rfl)).mpr ⟨data, hdata, rfl⟩⟩
  | code htype => exact ⟨_, contentOf_code (kindOf_of_type htype rfl)⟩

theorem block_total {block : Block} (hdocumented : Documented block)
    (hread : SelectorsRead block) (mode : EmissionMode) (place : Place) :
    Total Ledger.SameReferences (Lowering.block mode block place) := by
  obtain ⟨base, hbase⟩ := hdocumented.start_ok
  obtain ⟨content, hcontent⟩ := hdocumented.content_ok hread mode place
  exact block_total_of_result (resultOf_eq_ok_iff.mpr ⟨base, content, hbase, hcontent, rfl⟩)

theorem blocksFrom_total (mode : EmissionMode) (isNative : Bool) (own : String) (position : Nat)
    {items : List (Block × Scope)}
    (hitems : ∀ item ∈ items, Documented item.1 ∧ SelectorsRead item.1) :
    Total Ledger.SameReferences (blocksFrom mode isNative own position items) := by
  induction items generalizing position with
  | nil => exact .pure []
  | cons item rest ih =>
      obtain ⟨⟨hdocumented, hread⟩, hrest⟩ := List.forall_mem_cons.mp hitems
      exact .bind (block_total hdocumented hread mode _) fun _ =>
        .bind (ih (position + 1) hrest) fun _ => .pure _

/-- A screen of documented blocks can be lowered when its selectors can be read, and only then. -/
theorem screen_ok_iff_read {screen : Screen} (options : Options) {blocks : List Block}
    (hblocks : enabledBlocks screen = .ok blocks)
    (hdocumented : ∀ block ∈ blocks, Documented block) (ledger : Ledger) :
    (∃ plan after, (Lowering.screen screen options).run ledger = (.ok plan, after)) ↔
      ∀ block ∈ blocks, SelectorsRead block := by
  constructor
  · rintro ⟨plan, after, hrun⟩ block hmem data htype hdata
    obtain ⟨position, hblock⟩ := List.mem_iff_getElem?.mp hmem
    obtain ⟨place, lowered, -, hlowered⟩ := exists_lowered_of_plan hrun hblocks hblock
    obtain ⟨found, hfound, hread⟩ := checks_of_loweredAt hlowered (kindOf_of_type htype rfl)
    cases hdata.symm.trans hfound
    exact hread
  · intro hread
    have hstart : ∀ block ∈ blocks, ∃ base, start block = .ok base :=
      fun block hmem => (hdocumented block hmem).start_ok
    obtain ⟨decision, hdecision⟩ :=
      select_ok hstart screen.instanceName options.isNative options.forceRaw
    obtain ⟨found, hscopes⟩ := scopes_ok options.steps options.fields fun block hmem => by
      obtain ⟨base, hbase⟩ := hstart block hmem
      obtain ⟨names, hnames, -⟩ := exists_of_bind_eq_ok hbase
      exact ⟨names, hnames⟩
    have hitems : ∀ item ∈ blocks.zip found, Documented item.1 ∧ SelectorsRead item.1 := by
      rintro ⟨block, scope⟩ hitem
      have hmem := (List.of_mem_zip hitem).1
      exact ⟨hdocumented block hmem, hread block hmem⟩
    obtain ⟨lowered, middle, hlower, -⟩ :=
      blocksFrom_total decision.mode options.isNative screen.instanceName 0 hitems ledger
    obtain ⟨plan, hmade, -⟩ := exists_planned options hblocks hdecision hscopes hlower
    exact ⟨plan, _, hmade.run⟩

/-- Nothing in the plan is in need of the raw mode, and nothing among the blocks is code. -/
structure PlanStructured (blocks : List Block) (plan : EmissionPlan) : Prop where
  lowered : ∀ lowered ∈ plan.blocks, IsStructured lowered
  code : ∀ block ∈ blocks, block.type = BlockType.customCode → isBlankText block.sourceCode = true

/-- On a browser, without the raw mode being forced, a screen of documented blocks has a mode, which
is raw just when some enabled block needs it; the plan of the screen is in that mode, and in the
structured one nothing in the plan is in need of the raw one. -/
theorem documented_mode {screen : Screen} (steps : List Step) (fields : List String)
    {blocks : List Block} (hblocks : enabledBlocks screen = .ok blocks)
    (hdocumented : ∀ block ∈ blocks, Documented block) :
    ∃ decision, ModeDecision.select blocks screen.instanceName false false = .ok decision ∧
      (decision.mode = .raw ↔ ∃ block ∈ blocks, NeedsRaw screen.instanceName block) ∧
      (∀ ledger,
        (∃ plan after, (Lowering.screen screen { isNative := false, steps, fields }).run ledger =
            (.ok plan, after)) ↔
          ∀ block ∈ blocks, SelectorsRead block) ∧
      ∀ ledger plan after,
        (Lowering.screen screen { isNative := false, steps, fields }).run ledger =
            (.ok plan, after) →
          plan.decision = decision ∧ (decision.mode = .structured → PlanStructured blocks plan) := by
  obtain ⟨decision, hdecision⟩ := select_ok (fun block hmem => (hdocumented block hmem).start_ok)
    screen.instanceName false false
  have hmode := ModeDecision.mode_select_iff hdecision
  refine ⟨decision, hdecision, ?_, screen_ok_iff_read _ hblocks hdocumented, ?_⟩
  · have hraw : decision.mode = .raw ↔ ¬decision.mode = .structured := by
      cases decision.mode <;> decide
    have hneeds : (∀ block ∈ blocks, ModeDecision.IsPlain screen.instanceName block) ↔
        ∀ block ∈ blocks, ¬NeedsRaw screen.instanceName block :=
      forall₂_congr fun block hmem => plain_iff (hdocumented block hmem)
    rw [hraw, hmode, hneeds]
    push Not
    rfl
  · intro ledger plan after hrun
    obtain ⟨others, found, middle, hmade, -⟩ := exists_planned_of_run hrun
    cases hblocks.symm.trans hmade.enabled
    have hsame : plan.decision = decision :=
      Except.ok.inj (hmade.decision.symm.trans hdecision)
    have hlower := hmade.lowered
    refine ⟨hsame, fun hstructured => ?_⟩
    have hplain := hmode.mp hstructured
    rw [hsame, hstructured] at hlower
    refine ⟨blocksFrom_isStructured 0 ?_ ledger plan.blocks middle hlower, fun block hmem htype => ?_⟩
    · rintro ⟨block, scope⟩ hitem
      have hmem := (List.of_mem_zip hitem).1
      exact ⟨hdocumented block hmem, hplain block hmem⟩
    · by_contra hcode
      exact (plain_iff (hdocumented block hmem)).mp (hplain block hmem) (.code htype hcode)

def titleChecks : Block where
  type := BlockType.uiAssertion
  data := [("visible", .list [.text "title[first]"])]

def titleScreen : Screen where
  screenKey := "bookingDetails"
  blocks := [
    { type := BlockType.customCode, code := some "await page.pause();", enabled := false },
    titleChecks]

theorem uiChecks_titleChecks : titleChecks.uiChecks = .ok { visible := ["title[first]"] } := rfl

theorem enabledBlocks_titleScreen : enabledBlocks titleScreen = .ok [titleChecks] := by
  simp [enabledBlocks, Screen.effectiveBlocks, titleScreen, titleChecks, Screen.byOrder,
    Screen.isLegacy]

/-- Code that is not enabled leaves the screen structured. -/
theorem titleScreen_structured :
    enabledBlocks titleScreen = .ok [titleChecks] ∧
      (∀ block ∈ [titleChecks], Documented block) ∧
      ∃ plan after,
        (Lowering.screen titleScreen { isNative := false }).run {} = (.ok plan, after) ∧
          plan.decision.mode = .structured ∧ PlanStructured [titleChecks] plan := by
  have hdocumented : ∀ block ∈ [titleChecks], Documented block := by
    rw [List.forall_mem_singleton]
    exact .checks _ rfl uiChecks_titleChecks
  refine ⟨enabledBlocks_titleScreen, hdocumented, ?_⟩
  obtain ⟨decision, hdecision, -, hruns, hplans⟩ :=
    documented_mode [] [] enabledBlocks_titleScreen hdocumented
  have hread : ∀ block ∈ [titleChecks], SelectorsRead block := by
    rw [List.forall_mem_singleton]
    intro data _ hdata
    cases uiChecks_titleChecks.symm.trans hdata
    rfl
  obtain ⟨plan, after, hrun⟩ := (hruns {}).mpr hread
  obtain ⟨rfl, hstructured⟩ := hplans {} plan after hrun
  have hmode : plan.decision.mode = .structured := by
    have hplain : ModeDecision.select [titleChecks] titleScreen.instanceName false false =
        .ok { mode := .structured } := rfl
    rw [← Except.ok.inj (hplain.symm.trans hdecision)]
  exact ⟨plan, after, hrun, hmode, hstructured hmode⟩

end Lowering

end ScreenFlow
