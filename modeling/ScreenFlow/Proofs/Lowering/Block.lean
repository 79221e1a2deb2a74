import ScreenFlow.Lowering.Plan
import ScreenFlow.Proofs.Ledger

/-!
What lowering a block reads of it and leaves in the ledger.  A block is lowered to its start, into
which its kind puts lines, checks and the object of a call; the ledger has no part in it, and no
reference is registered.
-/

namespace ScreenFlow

namespace Lowering

/-- What a lowered block tells about the block it comes from, for the screen's own object. -/
structure LoweredFrom (block : Block) (own : String) (lowered : LoweredBlock) : Prop where
  started : ∃ base, start block = .ok base
  called : ∀ object, lowered.external = some object →
    object ∉ ModeDecision.selfNames ∧ object ≠ own ∧
      ∃ data, block.callData = .ok data ∧ data.objectName = object

theorem start_eq_ok_iff {block : Block} {base : LoweredBlock} :
    start block = .ok base ↔ ∃ names, block.storedNames = .ok names ∧ base = {
      type := block.type
      label := block.heading
      order := block.order
      stored := names } := by
  rw [start]
  cases block.storedNames with
  | error failure => simp [bind, Except.bind]
  | ok names => simp [bind, Except.bind, pure, Except.pure, eq_comm]

theorem storedNames_of_start {block : Block} {base : LoweredBlock} (hstart : start block = .ok base) :
    block.storedNames = .ok base.stored := by
  obtain ⟨names, hnames, rfl⟩ := start_eq_ok_iff.mp hstart
  exact hnames

/-! What is put into the start of a block. -/

structure Content where
  lines : List String
  checks : List Check := []
  external : Option String := none

def complete (base : LoweredBlock) (content : Content) : LoweredBlock :=
  { base with lines := content.lines, checks := content.checks, external := content.external }

def callContent (data : CallData) (place : Place) : Content :=
  match Block.filled data.method with
  | none => { lines := ["// Function call without a method"] }
  | some method =>
      let isOwn := ModeDecision.selfNames.contains data.objectName
      let object := if isOwn then place.object else data.objectName
      let args := data.args.map place.scope.resolve
      { lines := [statement data.stored? (callText object method args data.isAsync)]
        external := if isOwn || object = place.object then none else some object }

def codeLines (block : Block) (place : Place) : List String :=
  let code := trimmedRight block.sourceCode
  if code = "" then ["// Empty custom code block"]
  else
    let body := linesOf code
    match Block.filled block.testStepName with
    | some name =>
        if block.wrapInTestStep && !place.isNative then
          ["await test.step(" ++ Script.quote name ++ ", async () => \x7b"] ++
            body.map (fun line => if line = "" then line else indent ++ line) ++ ["\x7d);"]
        else body
    | none => body

def uiContent : EmissionMode → Place → UiChecks → Except Failure Content
  | .structured, place, data => do
      let checks ← uiCheckEntries place.scope data
      return { lines := timeoutLines data.timeout ++ checkLines place.object checks, checks }
  | .raw, place, data => do
      return { lines := (← uiLineGroups place data).flatten }

def dataContent : EmissionMode → Place → List DataAssertion → Content
  | .structured, place, assertions =>
      let checks := assertions.map (dataCheck place.scope)
      { lines := checkLines place.object checks, checks }
  | .raw, place, assertions => { lines := assertions.map (dataLine place.scope) }

def unsupportedLine (block : Block) : String :=
  "// Skipped unsupported block type: " ++ if block.type = "" then "unknown" else block.type

/-- What the kind of a block puts into its start. -/
def contentOf (mode : EmissionMode) (block : Block) (place : Place) : Except Failure Content :=
  if kindOf block = "function_call" then return callContent (← block.callData) place
  else if kindOf block = "custom_code" then .ok { lines := codeLines block place }
  else if kindOf block = "ui_assertion" then do uiContent mode place (← block.uiChecks)
  else if kindOf block = "data_assertion" then
    return dataContent mode place (← block.dataAssertions)
  else .ok { lines := [unsupportedLine block] }

section Kinds

variable {mode : EmissionMode} {block : Block} {place : Place} {content : Content}

theorem contentOf_call_iff (hkind : kindOf block = "function_call") :
    contentOf mode block place = .ok content ↔
      ∃ data, block.callData = .ok data ∧ content = callContent data place := by
  rw [contentOf, if_pos hkind]
  cases block.callData with
  | error failure => simp [bind, Except.bind]
  | ok data => simp [bind, Except.bind, pure, Except.pure, eq_comm]

theorem contentOf_code (hkind : kindOf block = "custom_code") :
    contentOf mode block place = .ok { lines := codeLines block place } := by
  simp only [contentOf, hkind, String.reduceEq, if_false, if_true]

theorem contentOf_ui_iff (hkind : kindOf block = "ui_assertion") :
    contentOf mode block place = .ok content ↔
      ∃ data, block.uiChecks = .ok data ∧ uiContent mode place data = .ok content := by
  simp only [contentOf, hkind, String.reduceEq, if_false, if_true]
  cases block.uiChecks with
  | error failure => simp [bind, Except.bind]
  | ok data => simp [bind, Except.bind]

theorem contentOf_data_iff (hkind : kindOf block = "data_assertion") :
    contentOf mode block place = .ok content ↔
      ∃ assertions, block.dataAssertions = .ok assertions ∧
        content = dataContent mode place assertions := by
  simp only [contentOf, hkind, String.reduceEq, if_false, if_true]
  cases block.dataAssertions with
  | error failure => simp [bind, Except.bind]
  | ok assertions => simp [bind, Except.bind, pure, Except.pure, eq_comm]

end Kinds

def uiIn : EmissionMode → Block → Place → Except Failure LoweredBlock
  | .structured => structuredUi
  | .raw => rawUi

def dataIn : EmissionMode → Block → Place → Compile LoweredBlock
  | .structured => structuredData
  | .raw => rawData

theorem kindOf_of_type {block : Block} {type kind : String} (htype : block.type = type)
    (hkind : replaceChar type '-' "_" = kind) : kindOf block = kind := by
  rw [kindOf, htype, hkind]

/-- The type of a block says how it is lowered; the mode matters to two of the types. -/
theorem block_eq (mode : EmissionMode) (block : Block) (place : Place) :
    Lowering.block mode block place =
      if kindOf block = "function_call" then liftM (call block place)
      else if kindOf block = "custom_code" then liftM (customCode block place)
      else if kindOf block = "ui_assertion" then liftM (uiIn mode block place)
      else if kindOf block = "data_assertion" then dataIn mode block place
      else unsupported block place.position := by
  unfold Lowering.block
  cases mode <;> split <;> simp_all [uiIn, dataIn]

/-! Each kind of block puts its content into the start. -/

theorem complete_lines {block : Block} {base : LoweredBlock} (hstart : start block = .ok base)
    (lines : List String) : { base with lines } = complete base { lines } := by
  obtain ⟨names, -, rfl⟩ := start_eq_ok_iff.mp hstart
  rfl

theorem start_bind_congr {α : Type} {block : Block} {first second : LoweredBlock → Except Failure α}
    (hsame : ∀ base, start block = .ok base → first base = second base) :
    start block >>= first = start block >>= second := by
  cases hstart : start block with
  | error failure => rfl
  | ok base => exact hsame base hstart

theorem call_eq (block : Block) (place : Place) :
    call block place = do
      let base ← start block
      return complete base (callContent (← block.callData) place) := by
  refine start_bind_congr fun base hstart => bind_congr fun data => ?_
  obtain ⟨names, -, rfl⟩ := start_eq_ok_iff.mp hstart
  unfold callContent
  cases Block.filled data.method <;> rfl

theorem customCode_eq (block : Block) (place : Place) :
    customCode block place = do
      return complete (← start block) { lines := codeLines block place } := by
  refine start_bind_congr fun base hstart => ?_
  rw [← complete_lines hstart]
  unfold codeLines
  dsimp only
  by_cases hempty : trimmedRight block.sourceCode = ""
  · rw [if_pos hempty, if_pos hempty]
  · rw [if_neg hempty, if_neg hempty]
    cases Block.filled block.testStepName with
    | none => rfl
    | some name =>
        dsimp only
        split_ifs <;> rfl

theorem uiIn_eq (mode : EmissionMode) (block : Block) (place : Place) :
    uiIn mode block place = do
      let base ← start block
      return complete base (← uiContent mode place (← block.uiChecks)) := by
  cases mode with
  | structured =>
      refine start_bind_congr fun base hstart => bind_congr fun data => ?_
      obtain ⟨names, -, rfl⟩ := start_eq_ok_iff.mp hstart
      simp only [uiContent, bind_assoc, pure_bind]
      rfl
  | raw =>
      refine start_bind_congr fun base hstart => bind_congr fun data => ?_
      simp only [uiContent, bind_assoc, pure_bind, complete_lines hstart]

open Effect in
/-- An operator that is not known does not stop the lowering, and no reference comes of it. -/
theorem noteOperator_total (fallback : String) (assertion : DataAssertion) :
    Total Ledger.SameReferences (noteOperator fallback assertion) := by
  unfold noteOperator
  split
  · exact .pure _
  · exact Compile.degrade_total _

open Effect in
theorem run_dataIn_fst (mode : EmissionMode) (block : Block) (place : Place) (ledger : Ledger) :
    ((dataIn mode block place).run ledger).1 = do
      let base ← start block
      return complete base (dataContent mode place (← block.dataAssertions)) := by
  have hnotes (fallback : String) (assertions : List DataAssertion) :=
    Total.forM (noteOperator_total fallback) assertions
  cases mode with
  | structured =>
      unfold dataIn structuredData Compile.run
      rw [run_bind_fst, run_lift]
      refine start_bind_congr fun base hstart => ?_
      rw [run_bind_fst, run_lift]
      refine bind_congr fun assertions => (hnotes _ assertions).run_bind_fst (fun _ => ?_) _
      obtain ⟨names, -, rfl⟩ := start_eq_ok_iff.mp hstart
      rfl
  | raw =>
      unfold dataIn rawData Compile.run
      rw [run_bind_fst, run_lift]
      refine start_bind_congr fun base hstart => ?_
      rw [run_bind_fst, run_lift]
      refine bind_congr fun assertions => (hnotes _ assertions).run_bind_fst (fun _ => ?_) _
      rw [run_pure, complete_lines hstart]
      rfl

open Effect in
theorem run_unsupported_fst (block : Block) (position : Nat) (ledger : Ledger) :
    ((unsupported block position).run ledger).1 = do
      return complete (← start block) { lines := [unsupportedLine block] } := by
  unfold unsupported Compile.run
  rw [run_bind_fst, run_lift]
  refine start_bind_congr fun base hstart =>
    (Compile.degrade_total _).run_bind_fst (fun _ => ?_) _
  rw [run_pure, complete_lines hstart]
  rfl

/-! Blocks. -/

/-- What a block is lowered to. -/
def resultOf (mode : EmissionMode) (block : Block) (place : Place) :
    Except Failure LoweredBlock := do
  return complete (← start block) (← contentOf mode block place)

theorem resultOf_eq_ok_iff {mode : EmissionMode} {block : Block} {place : Place}
    {lowered : LoweredBlock} :
    resultOf mode block place = .ok lowered ↔ ∃ base content, start block = .ok base ∧
      contentOf mode block place = .ok content ∧ lowered = complete base content := by
  constructor
  · intro hresult
    obtain ⟨base, hstart, hresult⟩ := exists_of_bind_eq_ok hresult
    obtain ⟨content, hcontent, hresult⟩ := exists_of_bind_eq_ok hresult
    cases hresult
    exact ⟨base, content, hstart, hcontent, rfl⟩
  · rintro ⟨base, content, hstart, hcontent, rfl⟩
    rw [resultOf, hstart, hcontent]
    rfl

/-- The ledger has no part in what a block is lowered to, or fails with. -/
theorem run_block_fst (mode : EmissionMode) (block : Block) (place : Place) (ledger : Ledger) :
    ((Lowering.block mode block place).run ledger).1 = resultOf mode block place := by
  rw [block_eq]
  unfold resultOf contentOf
  split_ifs
  · rw [call_eq]
    simp only [bind_assoc, pure_bind]
    rfl
  · rw [customCode_eq]
    rfl
  · rw [uiIn_eq]
    simp only [bind_assoc]
    rfl
  · rw [run_dataIn_fst]
    simp only [bind_assoc, pure_bind]
  · exact run_unsupported_fst block place.position ledger

theorem resultOf_of_run {mode : EmissionMode} {block : Block} {place : Place} {before after : Ledger}
    {lowered : LoweredBlock}
    (hrun : (Lowering.block mode block place).run before = (.ok lowered, after)) :
    resultOf mode block place = .ok lowered := by
  rw [← run_block_fst mode block place before, hrun]

open Effect in
theorem block_moves (mode : EmissionMode) (block : Block) (place : Place) :
    Moves Ledger.SameReferences (Lowering.block mode block place) := by
  have hnotes (fallback : String) (assertions : List DataAssertion) :=
    (Total.forM (noteOperator_total fallback) assertions).moves
  rw [block_eq]
  split_ifs
  · exact .lift _
  · exact .lift _
  · exact .lift _
  · cases mode
    all_goals
      exact .bind (.lift _) fun _ => .bind (.lift _) fun _ =>
        .bind (hnotes _ _) fun _ => .pure _
  · exact .bind (.lift _) fun _ => .bind (Compile.degrade_total _).moves fun _ => .pure _

open Effect in
/-- A block that has a result is lowered to it from every ledger. -/
theorem block_total_of_result {mode : EmissionMode} {block : Block} {place : Place}
    {lowered : LoweredBlock} (hresult : resultOf mode block place = .ok lowered) :
    Total Ledger.SameReferences (Lowering.block mode block place) :=
  fun ledger =>
    ⟨lowered, _, Prod.ext ((run_block_fst ..).trans hresult) rfl, block_moves _ _ _ ledger⟩

theorem uiContent_external {mode : EmissionMode} {place : Place} {data : UiChecks}
    {content : Content} (hcontent : uiContent mode place data = .ok content) :
    content.external = none := by
  cases mode
  all_goals
    obtain ⟨parts, -, hcontent⟩ := exists_of_bind_eq_ok hcontent
    cases hcontent
    rfl

theorem callContent_checks (data : CallData) (place : Place) :
    (callContent data place).checks = [] := by
  unfold callContent
  split <;> rfl

theorem callContent_external {data : CallData} {place : Place} {object : String}
    (hcalled : (callContent data place).external = some object) :
    object ∉ ModeDecision.selfNames ∧ object ≠ place.object ∧ data.objectName = object := by
  unfold callContent at hcalled
  split at hcalled
  · cases hcalled
  · by_cases hself : data.objectName ∈ ModeDecision.selfNames
    · simp [hself] at hcalled
    · simp only [List.contains_eq_mem, hself, decide_false, Bool.false_or,
        Bool.false_eq_true, if_false, decide_eq_true_eq,
        Option.ite_none_left_eq_some, Option.some.injEq] at hcalled
      obtain ⟨hother, rfl⟩ := hcalled
      exact ⟨hself, hother, rfl⟩

/-- Only a call has an object. -/
theorem contentOf_external {mode : EmissionMode} {block : Block} {place : Place}
    {content : Content} (hcontent : contentOf mode block place = .ok content) {object : String}
    (hcalled : content.external = some object) :
    object ∉ ModeDecision.selfNames ∧ object ≠ place.object ∧
      ∃ data, block.callData = .ok data ∧ data.objectName = object := by
  unfold contentOf at hcontent
  split_ifs at hcontent
  · obtain ⟨data, hdata, hcontent⟩ := exists_of_bind_eq_ok hcontent
    cases hcontent
    obtain ⟨hself, hother, hobject⟩ := callContent_external hcalled
    exact ⟨hself, hother, data, hdata, hobject⟩
  · cases hcontent
    cases hcalled
  · obtain ⟨data, -, hcontent⟩ := exists_of_bind_eq_ok hcontent
    cases (uiContent_external hcontent).symm.trans hcalled
  · obtain ⟨assertions, -, hcontent⟩ := exists_of_bind_eq_ok hcontent
    cases hcontent
    cases mode <;> cases hcalled
  · cases hcontent
    cases hcalled

theorem block_loweredFrom (mode : EmissionMode) (block : Block) (place : Place) :
    Effect.Returns (Lowering.block mode block place) (LoweredFrom block place.object) := by
  intro before lowered after hrun
  obtain ⟨base, content, hstart, hcontent, rfl⟩ := resultOf_eq_ok_iff.mp (resultOf_of_run hrun)
  exact ⟨⟨base, hstart⟩, fun object hcalled => contentOf_external hcontent hcalled⟩

/-- The lowered blocks of a screen come from its blocks one by one, and no reference is registered
on the way. -/
theorem blocksFrom_loweredFrom (mode : EmissionMode) (isNative : Bool) (own : String)
    (position : Nat) (blocks : List (Block × Scope)) :
    Effect.Returns (blocksFrom mode isNative own position blocks) fun lowered =>
      List.Forall₂ (fun item => LoweredFrom item.1 own) blocks lowered := by
  induction blocks generalizing position with
  | nil => exact .pure .nil
  | cons item rest ih =>
      exact .bind (block_loweredFrom mode item.1 _) fun lowered hlowered =>
        .bind (ih (position + 1)) fun others hothers => .pure (.cons hlowered hothers)

theorem blocksFrom_moves (mode : EmissionMode) (isNative : Bool) (own : String) (position : Nat)
    (blocks : List (Block × Scope)) :
    Effect.Moves Ledger.SameReferences (blocksFrom mode isNative own position blocks) := by
  induction blocks generalizing position with
  | nil => exact .pure _
  | cons item rest ih =>
      exact .bind (block_moves mode item.1 _) fun _ => .bind (ih (position + 1)) fun _ => .pure _

end Lowering

end ScreenFlow
