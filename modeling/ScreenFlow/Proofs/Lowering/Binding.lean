import ScreenFlow.Proofs.Lowering.Position

/-!
Stored names and the code that sets them.  The scopes of a screen take the names a block stores from
its payload; what sets them is a statement or a check descriptor of the lowered block.
-/

namespace ScreenFlow

namespace Lowering

open Scope

/-- A statement assigns to the variable of the name, or a descriptor says to store under it. -/
def Binds (lowered : LoweredBlock) (name : String) : Prop :=
  (∃ expression, statement (some name) expression ∈ lowered.lines) ∨
    ∃ check ∈ lowered.checks, ("storeAs", Script.quote name) ∈ check

def BindsStored (lowered : LoweredBlock) : Prop :=
  ∀ name ∈ lowered.stored, Binds lowered name

/-- A call that stores its result has a method; a comparison of data has no result to store. -/
structure EmitsStored (block : Block) : Prop where
  call : block.type = BlockType.functionCall → ∀ data, block.callData = .ok data →
    data.stored? ≠ none → Block.filled data.method ≠ none
  comparison : block.type = BlockType.dataAssertion → block.storedNames = .ok []

/-! Statements. -/

theorem storedRoot_prefix_statement (name expression : String) :
    storedRoot.toList <+: (statement (some name) expression).toList := by
  have haccess : IsAccess storedRoot (statement (some name) expression) := by
    refine ⟨name, " = " ++ expression ++ ";", ?_⟩
    simp only [statement, storedTarget, String.append_assoc]
  exact haccess.object_prefix

theorem not_binds {lowered : LoweredBlock}
    (hlines : ∀ line ∈ lowered.lines, line.toList.head? ≠ some 's')
    (hchecks : ∀ check ∈ lowered.checks, "storeAs" ∉ check.map Prod.fst) (name : String) :
    ¬Binds lowered name := by
  rintro (⟨expression, hline⟩ | ⟨check, hcheck, hentry⟩)
  · obtain ⟨rest, hrest⟩ := storedRoot_prefix_statement name expression
    apply hlines _ hline
    rw [← hrest]
    rfl
  · exact hchecks check hcheck (List.mem_map_of_mem hentry)

/-! The names of a lowered block. -/

theorem stored_of_loweredAt {mode : EmissionMode} {block : Block} {place : Place}
    {lowered : LoweredBlock} (hlowered : LoweredAt mode block place lowered) :
    block.storedNames = .ok lowered.stored := by
  obtain ⟨base, content, hstart, -, rfl⟩ := loweredAt_iff.mp hlowered
  exact (storedNames_of_start hstart : block.storedNames = .ok base.stored)

theorem storedNames_of_call {block : Block} (htype : block.type = BlockType.functionCall)
    {data : CallData} (hdata : block.callData = .ok data) :
    block.storedNames = .ok data.stored?.toList := by
  simp only [Block.storedNames, htype, if_true, hdata]
  rfl

theorem storedNames_of_ui {block : Block} (htype : block.type = BlockType.uiAssertion)
    {data : UiChecks} (hdata : block.uiChecks = .ok data) :
    block.storedNames = .ok (data.assertions.filterMap FunctionAssertion.stored?) := by
  have hother : BlockType.uiAssertion ≠ BlockType.functionCall := by decide
  simp only [Block.storedNames, htype, if_neg hother, if_true, hdata]
  rfl

/-! What each kind of block emits. -/

theorem bindsStored_iff_of_not_binds {block : Block} {lowered : LoweredBlock}
    (hnames : block.storedNames = .ok lowered.stored) (hnone : ∀ name, ¬Binds lowered name) :
    BindsStored lowered ↔ block.storedNames = .ok [] := by
  rw [hnames, Except.ok.injEq, List.eq_nil_iff_forall_not_mem]
  simp only [BindsStored, hnone, imp_false]

theorem call_bindsStored_of_loweredAt {mode : EmissionMode} {block : Block}
    (htype : block.type = BlockType.functionCall) {place : Place} {lowered : LoweredBlock}
    (hlowered : LoweredAt mode block place lowered) :
    BindsStored lowered ↔ ∀ data, block.callData = .ok data →
      data.stored? ≠ none → Block.filled data.method ≠ none := by
  have hstored := stored_of_loweredAt hlowered
  obtain ⟨base, content, -, hcontent, rfl⟩ := loweredAt_iff.mp hlowered
  obtain ⟨data, hdata, rfl⟩ := (contentOf_call_iff (kindOf_of_type htype rfl)).mp hcontent
  simp only [hdata, Except.ok.injEq, forall_eq']
  have hchecks := callContent_checks data place
  cases hmethod : Block.filled data.method with
  | none =>
      -- the comment that takes the place of the call binds nothing
      have hlines : (callContent data place).lines = ["// Function call without a method"] := by
        rw [callContent, hmethod]
      rw [bindsStored_iff_of_not_binds hstored (not_binds (by simp [complete, hlines])
        (by simp [complete, hchecks])), storedNames_of_call htype hdata]
      simp
  | some method =>
      refine iff_of_true (fun name hname => ?_) fun _ => Option.some_ne_none method
      rw [storedNames_of_call htype hdata, Except.ok.injEq] at hstored
      rw [← hstored, Option.mem_toList] at hname
      rw [callContent, hmethod, hname]
      exact .inl ⟨_, List.mem_singleton_self _⟩

theorem storeAs_mem_assertionCheck {scope : Scope} {assertion : FunctionAssertion} {check : Check}
    (hcheck : assertionCheck scope assertion = .ok check) {name : String}
    (hname : assertion.stored? = some name) : ("storeAs", Script.quote name) ∈ check := by
  obtain ⟨selector, -, hcheck⟩ := exists_of_bind_eq_ok hcheck
  cases hcheck
  simp [hname]

theorem statement_mem_assertionLines {place : Place} {assertion : FunctionAssertion}
    {lines : List String} (hlines : assertionLines place assertion = .ok lines) {name : String}
    (hname : assertion.stored? = some name) :
    ∃ expression, statement (some name) expression ∈ lines := by
  obtain ⟨selector, -, hlines⟩ := exists_of_bind_eq_ok hlines
  cases hlines
  simp only [hname, Option.map_some, Option.toList_some, List.map_cons, List.map_nil]
  exact ⟨_, List.mem_append_left _ (List.mem_singleton_self _)⟩

/-- Of the items, those that store a result are bound to its name. -/
theorem uiContent_binds {mode : EmissionMode} {place : Place} {data : UiChecks} {content : Content}
    (hcontent : uiContent mode place data = .ok content) (base : LoweredBlock) :
    ∀ assertion ∈ data.assertions, ∀ name, assertion.stored? = some name →
      Binds (complete base content) name := by
  intro assertion hmem name hname
  have hitem : UiChecks.Item.assertion assertion ∈ data.items :=
    List.mem_append_right _ (List.mem_map_of_mem hmem)
  cases mode with
  | structured =>
      obtain ⟨checks, hchecks, hcontent⟩ := exists_of_bind_eq_ok hcontent
      cases hcontent
      rw [uiCheckEntries_eq] at hchecks
      obtain ⟨check, hcheck, hresult⟩ := exists_of_mapM_eq_ok hchecks hitem
      exact .inr ⟨check, hcheck, storeAs_mem_assertionCheck hresult hname⟩
  | raw =>
      obtain ⟨groups, hgroups, hcontent⟩ := exists_of_bind_eq_ok hcontent
      cases hcontent
      rw [uiLineGroups_eq] at hgroups
      obtain ⟨lines, hlines, hresult⟩ := exists_of_mapM_eq_ok hgroups hitem
      obtain ⟨expression, hline⟩ := statement_mem_assertionLines hresult hname
      exact .inl ⟨expression, List.mem_flatten.mpr ⟨lines, hlines, hline⟩⟩

theorem ui_bindsStored_of_loweredAt {mode : EmissionMode} {block : Block}
    (htype : block.type = BlockType.uiAssertion) {place : Place} {lowered : LoweredBlock}
    (hlowered : LoweredAt mode block place lowered) : BindsStored lowered := by
  have hstored := stored_of_loweredAt hlowered
  obtain ⟨base, content, -, hcontent, rfl⟩ := loweredAt_iff.mp hlowered
  obtain ⟨data, hdata, hcontent⟩ := (contentOf_ui_iff (kindOf_of_type htype rfl)).mp hcontent
  rw [storedNames_of_ui htype hdata, Except.ok.injEq] at hstored
  intro name hname
  rw [← hstored] at hname
  obtain ⟨assertion, hmem, hname⟩ := List.mem_filterMap.mp hname
  exact uiContent_binds hcontent base assertion hmem name hname

theorem head?_checkLines (object : String) (checks : List Check) :
    ∀ line ∈ checkLines object checks, line.toList.head? ≠ some 's' := by
  unfold checkLines
  split
  · simp
  · simp only [List.mem_append, List.mem_singleton, List.mem_map]
    rintro line ((rfl | ⟨check, -, rfl⟩) | rfl)
    · simp [String.toList_append]
    · simp [String.toList_append, indent]
    · simp

theorem head?_dataLine (scope : Scope) (assertion : DataAssertion) :
    (dataLine scope assertion).toList.head? ≠ some 's' := by
  unfold dataLine
  split <;> simp [String.toList_append]

theorem storeAs_not_mem_dataCheck (scope : Scope) (assertion : DataAssertion) :
    "storeAs" ∉ (dataCheck scope assertion).map Prod.fst := by
  unfold dataCheck
  cases assertion.right <;> simp

theorem dataContent_not_binds (mode : EmissionMode) (place : Place)
    (assertions : List DataAssertion) (base : LoweredBlock) (name : String) :
    ¬Binds (complete base (dataContent mode place assertions)) name := by
  cases mode with
  | structured =>
      refine not_binds (head?_checkLines _ _) (fun check hcheck => ?_) name
      obtain ⟨assertion, -, rfl⟩ := List.mem_map.mp hcheck
      exact storeAs_not_mem_dataCheck _ assertion
  | raw =>
      refine not_binds (fun line hline => ?_) (by simp [complete, dataContent]) name
      obtain ⟨assertion, -, rfl⟩ := List.mem_map.mp hline
      exact head?_dataLine _ assertion

/-! Blocks. -/

/-- Calls, checks on elements, and comparisons of data. -/
def bindingTypes : List String :=
  [BlockType.functionCall, BlockType.uiAssertion, BlockType.dataAssertion]

theorem data_bindsStored_of_loweredAt {mode : EmissionMode} {block : Block}
    (htype : block.type = BlockType.dataAssertion) {place : Place} {lowered : LoweredBlock}
    (hlowered : LoweredAt mode block place lowered) :
    BindsStored lowered ↔ block.storedNames = .ok [] := by
  have hstored := stored_of_loweredAt hlowered
  obtain ⟨base, content, -, hcontent, rfl⟩ := loweredAt_iff.mp hlowered
  obtain ⟨assertions, -, rfl⟩ := (contentOf_data_iff (kindOf_of_type htype rfl)).mp hcontent
  exact bindsStored_iff_of_not_binds hstored (dataContent_not_binds mode place assertions base)

theorem bindsStored_of_emitsStored {mode : EmissionMode} {block : Block} {place : Place}
    {lowered : LoweredBlock} (htype : block.type ∈ bindingTypes)
    (hlowered : LoweredAt mode block place lowered) (hemits : EmitsStored block) :
    BindsStored lowered := by
  simp only [bindingTypes, List.mem_cons, List.not_mem_nil, or_false] at htype
  rcases htype with hcall | hui | hdata
  · exact (call_bindsStored_of_loweredAt hcall hlowered).mpr (hemits.call hcall)
  · exact ui_bindsStored_of_loweredAt hui hlowered
  · exact (data_bindsStored_of_loweredAt hdata hlowered).mpr (hemits.comparison hdata)

/-- A lowered block binds every name it stores, save in two cases: a call without a method has a
name for its result, or a comparison of data has one. -/
theorem bindsStored_iff_emitsStored {mode : EmissionMode} {block : Block} {place : Place}
    {lowered : LoweredBlock} (htype : block.type ∈ bindingTypes)
    (hlowered : LoweredAt mode block place lowered) :
    BindsStored lowered ↔ EmitsStored block := by
  refine ⟨fun hbinds => ⟨fun hcall => ?_, fun hdata => ?_⟩,
    bindsStored_of_emitsStored htype hlowered⟩
  · exact (call_bindsStored_of_loweredAt hcall hlowered).mp hbinds
  · exact (data_bindsStored_of_loweredAt hdata hlowered).mp hbinds

def pagePlace : Place where
  isNative := false
  object := "page"
  scope := []
  position := 0

theorem totalCall_bindsStored :
    ∃ lowered, totalCall.type ∈ bindingTypes ∧ LoweredAt .raw totalCall pagePlace lowered ∧
      lowered.stored = ["total"] ∧ BindsStored lowered := by
  have htype : totalCall.type ∈ bindingTypes := by decide
  have hlowered : LoweredAt .raw totalCall pagePlace
      { type := BlockType.functionCall
        label := BlockType.functionCall
        order := .zero false
        lines := ["storedVars.total = await page.readTotal();"]
        stored := ["total"] } := ⟨{}, {}, rfl⟩
  refine ⟨_, htype, hlowered, rfl, (bindsStored_iff_emitsStored htype hlowered).mpr ⟨?_, ?_⟩⟩
  · rintro - data ⟨⟩ -
    decide
  · intro hdata
    exact absurd hdata (by decide)

def methodlessCall : Block where
  type := BlockType.functionCall
  data := [("storeAs", .text "x")]

def storingComparison : Block where
  type := BlockType.dataAssertion
  data := [("storeAs", .text "x")]

/-- The lowered block stores a name and binds it nowhere. -/
def StoresUnbound (mode : EmissionMode) (block : Block) : Prop :=
  block.type ∈ bindingTypes ∧ ∃ lowered,
    LoweredAt mode block pagePlace lowered ∧ lowered.stored = ["x"] ∧ ¬BindsStored lowered

theorem not_bindsStored_methodlessCall :
    (∀ mode, StoresUnbound mode methodlessCall) ∧ ∀ mode, StoresUnbound mode storingComparison := by
  constructor
  · intro mode
    refine ⟨by decide, {
      type := BlockType.functionCall
      label := BlockType.functionCall
      order := .zero false
      lines := ["// Function call without a method"]
      stored := ["x"] }, ⟨{}, {}, by cases mode <;> rfl⟩, rfl, fun hbinds => ?_⟩
    exact not_binds (by simp) (by simp) "x" (hbinds "x" (List.mem_singleton_self _))
  · intro mode
    refine ⟨by decide, {
      type := BlockType.dataAssertion
      label := BlockType.dataAssertion
      order := .zero false
      stored := ["x"] }, ⟨{}, {}, by cases mode <;> rfl⟩, rfl, fun hbinds => ?_⟩
    exact not_binds (by simp) (by simp) "x" (hbinds "x" (List.mem_singleton_self _))

/-! Screens. -/

/-- A reference that reads a stored result reads one that a step, or a block at an earlier position,
has set, when the blocks of the screen bind what they store. -/
theorem reference_reads_what_is_bound {screen : Screen} {options : Options} {ledger after : Ledger}
    {plan : EmissionPlan} {blocks : List Block}
    (hrun : (Lowering.screen screen options).run ledger = (.ok plan, after))
    (hblocks : enabledBlocks screen = .ok blocks)
    (hemits : ∀ block ∈ blocks, block.type ∈ bindingTypes ∧ EmitsStored block)
    {found : List Scope} (hscopes : scopes options.steps options.fields blocks = .ok found)
    {position : Nat} {scope : Scope} (hscope : found[position]? = some scope) {reference : String}
    (hpath : IsPath (trimmed reference))
    (hstored : IsAccess storedRoot (scope.resolveReference reference)) :
    (∃ step ∈ options.steps, step.stored? = some (headOf (trimmed reference))) ∨
      ∃ earlier lowered, earlier < position ∧ plan.blocks[earlier]? = some lowered ∧
        Binds lowered (headOf (trimmed reference)) := by
  have hbuild := build_of_scopes hscopes hscope
  rcases (reference_isAccess_iff hbuild hpath).1.mp hstored with hstep | hblock
  · exact .inl hstep
  · right
    obtain ⟨block, hmem, names, hnames, hname⟩ := hblock
    obtain ⟨earlier, hlt, hget⟩ := List.mem_take_iff_getElem.mp hmem
    have hearlier : blocks[earlier]? = some block := List.getElem?_eq_some_iff.mpr ⟨_, hget⟩
    obtain ⟨place, lowered, hresult, hlowered⟩ := exists_lowered_of_plan hrun hblocks hearlier
    obtain ⟨htype, hemit⟩ := hemits block (List.mem_of_getElem? hearlier)
    refine ⟨earlier, lowered, by omega, hresult, ?_⟩
    apply bindsStored_of_emitsStored htype hlowered hemit
    have hkept := stored_of_loweredAt hlowered
    rw [hnames, Except.ok.injEq] at hkept
    rw [← hkept]
    exact hname

end Lowering

end ScreenFlow
