import ScreenFlow.Proofs.Lowering.Jobs
import ScreenFlow.Proofs.Lowering.Position
import ScreenFlow.Proofs.Lowering.ReadAlike
import ScreenFlow.Proofs.Schema.Values

/-!
What the statements of calls name.  A call is declared by a record, the payload of a block or a step
of an action, and any of its fields may be a placeholder.  In a payload a placeholder counts as
nothing: there is no statement without a method, and a call without an object is made on the
screen's own one.  The object and the method of a step are taken as they are.
-/

namespace ScreenFlow

namespace Lowering

open Schema

/-- The text is not the marker of something that could not be computed. -/
def IsKnown (text : String) : Prop :=
  ∀ kind : Placeholder, text ≠ kind.marker

theorem isKnown_iff_of_string? {value : Value} {text : String}
    (htext : value.string? = some text) : IsKnown text ↔ value.isPlaceholder = false := by
  rw [← Bool.not_eq_true, Value.isPlaceholder_iff, htext, IsKnown]
  simp only [Option.some.injEq, not_exists, ne_eq]

theorem isKnown_this : IsKnown "this" := by
  rintro (_ | _ | _ | _) <;> decide

/-- A statement that calls a method of an object. -/
structure CallStatement where
  object : String
  method : String
  args : List String
  isAsync : Bool
  stored : Option String

namespace CallStatement

def text (call : CallStatement) : String :=
  statement call.stored (callText call.object call.method call.args call.isAsync)

/-- Whatever the statement names is known. -/
structure NamesKnown (call : CallStatement) : Prop where
  object : IsKnown call.object
  method : IsKnown call.method
  stored : ∀ name ∈ call.stored, IsKnown name

end CallStatement

/-- A field of a record that could not be computed. -/
def isComputed (record : Value) (field : String) : Bool :=
  (record.entries?.bind (Entries.get? · field)).any Value.isPlaceholder

/-- A record of a call whose object or method could not be computed. -/
def hasComputedCall (record : Value) : Bool :=
  isComputed record "instance" || isComputed record "method"

/-- The calls emitted for a record: they name what is known, and there is none when the object or
the method of the record could not be computed. -/
structure EmitsKnown (record : Value) (calls : List CallStatement) : Prop where
  known : ∀ call ∈ calls, call.NamesKnown
  skipped : hasComputedCall record = true → calls = []

/-! Records. -/

theorem isComputed_of_get? {entries : Entries} {field : String} {found : Option Value}
    (hfound : Entries.get? entries field = found) :
    isComputed (.map entries) field = found.any Value.isPlaceholder := by
  rw [isComputed, Value.entries?, Option.bind_some, hfound]

theorem isKnown_of_stringOrNone {value : Value} {text : String}
    (hread : stringOrNone value = .value (some text)) : IsKnown text := by
  obtain ⟨htext, hknown⟩ := stringOrNone_eq_some_iff.mp hread
  exact (isKnown_iff_of_string? htext).mpr hknown

/-- A text that may be missing is known when it is there. -/
theorem isKnown_of_optional {entries : Entries} {name : Schema.Name} {text : String}
    (hread : optional entries name none stringOrNone = .value (some text)) : IsKnown text := by
  rcases optional_eq_value_iff.mp hread with ⟨-, hnone⟩ | ⟨given, -, hgiven⟩
  · cases hnone
  · exact isKnown_of_stringOrNone hgiven

theorem eq_none_of_isComputed {entries : Entries} {field : String} {text : Option String}
    (hread : optional entries (.same field) none stringOrNone = .value text)
    (hcomputed : isComputed (.map entries) field = true) : text = none := by
  rcases optional_same_eq_value_iff.mp hread with ⟨hnone, rfl⟩ | ⟨value, hvalue, hread⟩
  · rfl
  · rw [isComputed_of_get? hvalue, Option.any_some] at hcomputed
    rw [stringOrNone_eq_none_iff.mpr (.inr hcomputed)] at hread
    cases hread
    rfl

/-- The object and the method of a step are those of its record, also when they are placeholders;
the name of its result is none. -/
structure StepOf (record : Value) (step : Step) : Prop where
  object : IsKnown step.object ↔ isComputed record "instance" = false
  method : IsKnown step.method ↔ isComputed record "method" = false
  stored : ∀ name ∈ step.stored?, IsKnown name

theorem stepOf_of_read {record : Value} {step : Step} (hread : Step.read record = .value step) :
    StepOf record step := by
  simp only [Step.read, record_eq_value_iff, Reading.seqLeft_eq_value_iff,
    Reading.seq_eq_value_iff, Reading.functor_map_eq_value_iff] at hread
  obtain ⟨entries, rfl, ⟨_, ⟨_, ⟨_, ⟨_, ⟨_, ⟨object, hobject, rfl⟩, method, hmethod, rfl⟩,
    args, -, rfl⟩, stored, hstored, rfl⟩, conditions, -, rfl⟩, isAsync, -, rfl⟩, -⟩ := hread
  refine ⟨?_, ?_, fun name hname => ?_⟩
  · rcases optional_same_eq_value_iff.mp hobject with ⟨hnone, rfl⟩ | ⟨value, hvalue, htext⟩
    · rw [isComputed_of_get? hnone]
      exact iff_of_true isKnown_this rfl
    · rw [isComputed_of_get? hvalue]
      exact isKnown_iff_of_string? (string_eq_value_iff.mp htext)
  · obtain ⟨value, hvalue, htext⟩ := required_same_eq_value_iff.mp hmethod
    rw [isComputed_of_get? hvalue]
    exact isKnown_iff_of_string? (string_eq_value_iff.mp htext)
  · obtain rfl : stored = some name := (Option.filter_eq_some_iff.mp hname).1
    exact isKnown_of_optional hstored

/-- The texts of a payload are known when they are there, and a placeholder is not. -/
structure CallOf (record : Value) (data : CallData) : Prop where
  object : ∀ object ∈ data.object, IsKnown object
  method : ∀ method ∈ data.method, IsKnown method
  stored : ∀ name ∈ data.stored?, IsKnown name
  noObject : isComputed record "instance" = true → data.object = none
  noMethod : isComputed record "method" = true → data.method = none

theorem callOf_of_read {record : Value} {data : CallData}
    (hread : CallData.read record = .value data) : CallOf record data := by
  simp only [CallData.read, record_eq_value_iff, Reading.seqLeft_eq_value_iff,
    Reading.seq_eq_value_iff, Reading.functor_map_eq_value_iff] at hread
  obtain ⟨entries, rfl, ⟨_, ⟨_, ⟨_, ⟨_, ⟨_, ⟨_, ⟨object, hobject, rfl⟩, method, hmethod, rfl⟩,
    args, -, rfl⟩, isAsync, -, rfl⟩, stored, hstored, rfl⟩, className, -, rfl⟩, path, -, rfl⟩, -⟩ :=
    hread
  refine ⟨?_, ?_, fun name hname => ?_, eq_none_of_isComputed hobject,
    eq_none_of_isComputed hmethod⟩
  · rintro object rfl
    exact isKnown_of_optional hobject
  · rintro method rfl
    exact isKnown_of_optional hmethod
  · obtain rfl : stored = some name := (Option.filter_eq_some_iff.mp hname).1
    exact isKnown_of_optional hstored

/-! Steps. -/

/-- The call of a step that comes after others. -/
def stepCall (app : String) (fields : List String) (earlier : List Step) (step : Step) :
    CallStatement where
  object := stepObject step app
  method := step.method
  args := step.args.map (Scope.ofSteps earlier ++ Scope.ofFields fields).resolve
  isAsync := step.isAsync
  stored := step.stored?

def stepCalls (app : String) (fields : List String) (earlier : List Step) :
    List Step → List CallStatement
  | [] => []
  | step :: rest =>
      stepCall app fields earlier step :: stepCalls app fields (earlier ++ [step]) rest

/-- The lines are the statements of the calls in their order, each alone or under a condition. -/
inductive Emits : List CallStatement → List String → Prop
  | nil : Emits [] []
  | plain {calls : List CallStatement} {lines : List String} (call : CallStatement) :
      Emits calls lines → Emits (call :: calls) (call.text :: lines)
  | guarded {calls : List CallStatement} {lines : List String} (call : CallStatement)
      (conditions : String) : Emits calls lines →
      Emits (call :: calls)
        (("if (ExpectImplication.conditionsMet(" ++ conditions ++
          ", \x7b data: ctx.data, stored: storedVars \x7d)) \x7b") :: (indent ++ call.text) ::
          "\x7d" :: lines)

theorem Emits.step {calls : List CallStatement} {lines : List String} (hemits : Emits calls lines)
    (app : String) (fields : List String) (earlier : List Step) (step : Step) :
    Emits (stepCall app fields earlier step :: calls)
      (stepLines step app (Scope.ofSteps earlier ++ Scope.ofFields fields) ++ lines) := by
  unfold stepLines
  split
  · exact .guarded _ _ hemits
  · exact .plain _ hemits

theorem emits_stepGroups (app : String) (fields : List String) (steps earlier : List Step) :
    Emits (stepCalls app fields earlier steps) (stepGroups app fields earlier steps).flatten := by
  induction steps generalizing earlier with
  | nil => exact .nil
  | cons step rest ih => exact (ih (earlier ++ [step])).step app fields earlier step

/-- The call of a step names what is known exactly when its record does, for an app that is known if
the step calls it. -/
theorem emitsKnown_stepCall_iff {record : Value} {step : Step} (hstep : StepOf record step)
    (app : String) (fields : List String) (earlier : List Step) :
    EmitsKnown record [stepCall app fields earlier step] ↔
      hasComputedCall record = false ∧
        (step.object ∈ ModeDecision.selfNames → IsKnown app) := by
  constructor
  · rintro ⟨hknown, hskipped⟩
    refine ⟨Bool.eq_false_iff.mpr fun hcomputed => List.cons_ne_nil _ _ (hskipped hcomputed),
      fun hself => ?_⟩
    have hobject := (hknown _ (List.mem_singleton_self _)).object
    simpa [stepCall, stepObject, hself] using hobject
  · rintro ⟨hcomputed, happ⟩
    refine ⟨fun call hcall => ?_, fun hother => by simp [hcomputed] at hother⟩
    cases List.mem_singleton.mp hcall
    rw [hasComputedCall, Bool.or_eq_false_iff] at hcomputed
    refine ⟨?_, hstep.method.mpr hcomputed.2, hstep.stored⟩
    by_cases hself : step.object ∈ ModeDecision.selfNames
    · simpa [stepCall, stepObject, hself] using happ hself
    · simpa [stepCall, stepObject, hself] using hstep.object.mpr hcomputed.1

/-- Each call names what is known exactly when all records do, and the app if some step calls it. -/
theorem forall₂_emitsKnown_iff {records : List Value} {steps : List Step}
    (hsteps : List.Forall₂ StepOf records steps) (app : String) (fields : List String)
    (earlier : List Step) :
    List.Forall₂ (fun record call => EmitsKnown record [call]) records
        (stepCalls app fields earlier steps) ↔
      (∀ record ∈ records, hasComputedCall record = false) ∧
        ((∃ step ∈ steps, step.object ∈ ModeDecision.selfNames) → IsKnown app) := by
  induction hsteps generalizing earlier with
  | nil => simp [stepCalls]
  | cons hstep _ ih =>
      rw [stepCalls, List.forall₂_cons, emitsKnown_stepCall_iff hstep, ih]
      simp only [List.forall_mem_cons, List.exists_mem_cons_iff, or_imp]
      tauto

theorem stored_isKnown_of_stepCalls {records : List Value} {steps : List Step}
    (hsteps : List.Forall₂ StepOf records steps) (app : String) (fields : List String)
    (earlier : List Step) :
    ∀ call ∈ stepCalls app fields earlier steps, ∀ name ∈ call.stored, IsKnown name := by
  induction hsteps generalizing earlier with
  | nil => simp [stepCalls]
  | cons hstep _ ih =>
      rw [stepCalls, List.forall_mem_cons]
      exact ⟨hstep.stored, ih _⟩

/-! Blocks. -/

/-- The call that a block makes, if it has a method. -/
def blockCall? (data : CallData) (place : Place) : Option CallStatement :=
  (Block.filled data.method).map fun method => {
    object :=
      if ModeDecision.selfNames.contains data.objectName then place.object else data.objectName
    method
    args := data.args.map place.scope.resolve
    isAsync := data.isAsync
    stored := data.stored? }

def callLine (call? : Option CallStatement) : String :=
  (call?.map CallStatement.text).getD "// Function call without a method"

theorem callContent_lines (data : CallData) (place : Place) :
    (callContent data place).lines = [callLine (blockCall? data place)] := by
  unfold callContent blockCall?
  cases Block.filled data.method <;> rfl

theorem lines_of_call {mode : EmissionMode} {block : Block} {place : Place}
    {lowered : LoweredBlock} (hkind : kindOf block = "function_call")
    (hlowered : LoweredAt mode block place lowered) :
    ∃ data, block.callData = .ok data ∧ lowered.lines = [callLine (blockCall? data place)] := by
  obtain ⟨base, content, -, hcontent, rfl⟩ := loweredAt_iff.mp hlowered
  obtain ⟨data, hdata, rfl⟩ := (contentOf_call_iff hkind).mp hcontent
  exact ⟨data, hdata, callContent_lines data place⟩

section Payload

variable {record : Value} {data : CallData} (hdata : CallOf record data) (place : Place)
include hdata

/-- A statement for a payload names only what is known, on an own object that is known. -/
theorem namesKnown_blockCall {call : CallStatement} (hcall : blockCall? data place = some call)
    (hown : data.objectName ∈ ModeDecision.selfNames → IsKnown place.object) :
    call.NamesKnown := by
  obtain ⟨method, hmethod, rfl⟩ := Option.map_eq_some_iff.mp hcall
  refine ⟨?_, hdata.method method (Option.filter_eq_some_iff.mp hmethod).1, hdata.stored⟩
  by_cases hself : data.objectName ∈ ModeDecision.selfNames
  · simpa [hself] using hown hself
  · simp only [List.contains_eq_mem, hself, decide_false, Bool.false_eq_true, if_false]
    cases hobject : data.object with
    | none => exact absurd (by simp [CallData.objectName, hobject, ModeDecision.selfNames]) hself
    | some object =>
        rw [CallData.objectName, hobject]
        exact hdata.object object hobject

theorem blockCall?_of_computedMethod (hcomputed : isComputed record "method" = true) :
    blockCall? data place = none := by
  rw [blockCall?, hdata.noMethod hcomputed]
  rfl

/-- A payload without a method emits no statement.  With one, an object that could not be computed
is passed over for the own object. -/
theorem emitsKnown_blockCall_iff :
    EmitsKnown record (blockCall? data place).toList ↔
      (Block.filled data.method ≠ none → isComputed record "instance" = false ∧
        (data.objectName ∈ ModeDecision.selfNames → IsKnown place.object)) := by
  cases hmethod : Block.filled data.method with
  | none =>
      have hcall : blockCall? data place = none := by rw [blockCall?, hmethod, Option.map_none]
      rw [hcall]
      exact iff_of_true ⟨by simp, fun _ => rfl⟩ fun hother => absurd rfl hother
  | some method =>
      obtain ⟨call, hcall⟩ : ∃ call, blockCall? data place = some call := by
        rw [blockCall?, hmethod]
        exact ⟨_, rfl⟩
      have hread : isComputed record "method" = false := Bool.eq_false_iff.mpr fun hcomputed => by
        rw [blockCall?_of_computedMethod hdata place hcomputed] at hcall
        cases hcall
      rw [hcall]
      simp only [ne_eq, reduceCtorEq, not_false_eq_true, forall_const]
      constructor
      · rintro ⟨hknown, hskipped⟩
        refine ⟨Bool.eq_false_iff.mpr fun hcomputed => ?_, fun hself => ?_⟩
        · cases hskipped (by rw [hasComputedCall, hcomputed, Bool.true_or])
        · have hobject := (hknown call (List.mem_singleton_self _)).object
          obtain ⟨_, _, rfl⟩ := Option.map_eq_some_iff.mp hcall
          simpa [hself] using hobject
      · rintro ⟨hobject, hown⟩
        refine ⟨fun other hother => ?_, fun hcomputed => ?_⟩
        · cases List.mem_singleton.mp hother
          exact namesKnown_blockCall hdata place hcall hown
        · simp [hasComputedCall, hobject, hread] at hcomputed

end Payload

/-- Steps are carried out as calls, one for each record.  A stored variable is never a placeholder;
every call names what is known, and there is none where object or method could not be computed,
exactly when they could be in every record.

A call block has one line, a statement or the comment in its place.  On an own object that is known
the statement names only what is known, and there is none when the method could not be computed.
When only the object could not be, the own one is called instead. -/
theorem calls_emitKnown_iff (value : Value) (steps : List Step) (app : String)
    (fields : List String) (ledger : Ledger) (mode : EmissionMode) (block : Block) (place : Place)
    (lowered : LoweredBlock) :
    (recordsOnly Step.read value = .value steps → ∃ lines after,
      (Lowering.steps steps app fields).run ledger = (.ok lines, after) ∧
      Emits (stepCalls app fields [] steps) lines ∧
      (∀ call ∈ stepCalls app fields [] steps, ∀ name ∈ call.stored, IsKnown name) ∧
      (List.Forall₂ (fun record call => EmitsKnown record [call]) value.mapsOnly
          (stepCalls app fields [] steps) ↔
        (∀ record ∈ value.mapsOnly, hasComputedCall record = false) ∧
          ((∃ step ∈ steps, step.object ∈ ModeDecision.selfNames) → IsKnown app))) ∧
    (kindOf block = "function_call" → LoweredAt mode block place lowered → ∃ data,
      block.callData = .ok data ∧ lowered.lines = [callLine (blockCall? data place)] ∧
      (IsKnown place.object → ∀ call ∈ blockCall? data place, call.NamesKnown) ∧
      (isComputed block.dataValue "method" = true → blockCall? data place = none) ∧
      (EmitsKnown block.dataValue (blockCall? data place).toList ↔
        (Block.filled data.method ≠ none → isComputed block.dataValue "instance" = false ∧
          (data.objectName ∈ ModeDecision.selfNames → IsKnown place.object)))) := by
  refine ⟨fun hread => ?_, fun hkind hlowered => ?_⟩
  · have hsteps : List.Forall₂ StepOf value.mapsOnly steps :=
      (Reading.each_eq_value_iff.mp hread).imp fun _ _ => stepOf_of_read
    exact ⟨_, _, run_stepsFrom [] app fields steps ledger, emits_stepGroups app fields steps [],
      stored_isKnown_of_stepCalls hsteps app fields [],
      forall₂_emitsKnown_iff hsteps app fields []⟩
  · obtain ⟨data, hdata, hlines⟩ := lines_of_call hkind hlowered
    have hread : CallOf block.dataValue data :=
      callOf_of_read (Block.payload_eq_ok_iff.mp hdata)
    exact ⟨data, hdata, hlines, fun hown call hcall => namesKnown_blockCall hread place hcall
      fun _ => hown, blockCall?_of_computedMethod hread place, emitsKnown_blockCall_iff hread place⟩

/-- Steps whose arguments, and whose name for the result, could not be computed. -/
def payingSteps : Value :=
  .list [.computed .call "more()", .map [
    (.name "instance", .text "cart"),
    (.name "method", .text "pay"),
    (.name "args", .computed .call "total()"),
    (.name "storeAs", .computed .template "f'paid_{kind}'")]]

def computedMethodCall : Block where
  type := BlockType.functionCall
  data := [("instance", .text "cart"), ("method", .computed .expression "actions[0]")]

def cartPlace : Place where
  isNative := false
  object := "cartPage"
  scope := []
  position := 0

/-- What `computedMethodCall` is lowered to: there is no statement. -/
def commentedCall : LoweredBlock where
  type := BlockType.functionCall
  label := BlockType.functionCall
  order := .zero false
  lines := ["// Function call without a method"]

theorem payingSteps_emitKnown :
    (∃ steps, recordsOnly Step.read payingSteps = .value steps ∧
      ∃ lines after, (Lowering.steps steps "shop" []).run {} = (.ok lines, after) ∧
        List.Forall₂ (fun record call => EmitsKnown record [call]) payingSteps.mapsOnly
          (stepCalls "shop" [] [] steps)) ∧
      ∃ lowered, LoweredAt .structured computedMethodCall cartPlace lowered ∧
        lowered.lines = ["// Function call without a method"] ∧
        EmitsKnown computedMethodCall.dataValue [] := by
  have hread : recordsOnly Step.read payingSteps =
      .value [{ object := "cart", method := "pay" }] := rfl
  have hlowered : LoweredAt .structured computedMethodCall cartPlace commentedCall :=
    ⟨{}, {}, rfl⟩
  obtain ⟨hsteps, hcall⟩ := calls_emitKnown_iff payingSteps
    [{ object := "cart", method := "pay" }] "shop" [] {} .structured computedMethodCall cartPlace
    commentedCall
  refine ⟨⟨_, hread, ?_⟩, _, hlowered, rfl, ?_⟩
  · obtain ⟨lines, after, hrun, -, -, hiff⟩ := hsteps hread
    refine ⟨lines, after, hrun, hiff.mpr ⟨by decide, ?_⟩⟩
    rintro ⟨step, hstep, hself⟩
    cases List.mem_singleton.mp hstep
    exact absurd hself (by decide)
  · obtain ⟨data, hdata, -, -, -, hiff⟩ := hcall (by decide) hlowered
    cases hdata
    exact hiff.mpr fun hmethod => absurd rfl hmethod

/-- A step on an object that could not be computed. -/
def computedObjectSteps : Value :=
  .list [.map [(.name "instance", .computed .call "page()"), (.name "method", .text "go")]]

def computedObjectCall : Block where
  type := BlockType.functionCall
  data := [("instance", .computed .call "page()"), ("method", .text "go")]

theorem not_emitKnown_computedObject :
    (¬ ∀ value steps, recordsOnly Step.read value = .value steps → ∀ app fields, IsKnown app →
      List.Forall₂ (fun record call => EmitsKnown record [call]) value.mapsOnly
        (stepCalls app fields [] steps)) ∧
      ¬ ∀ mode block place lowered, kindOf block = "function_call" →
        LoweredAt mode block place lowered → IsKnown place.object →
        ∀ data, block.callData = .ok data →
          EmitsKnown block.dataValue (blockCall? data place).toList := by
  refine ⟨fun hall => ?_, fun hall => ?_⟩
  · have hread : recordsOnly Step.read computedObjectSteps =
        .value [{ object := "<call>", method := "go" }] := rfl
    obtain ⟨hemits, -⟩ := List.forall₂_cons.mp (hall _ _ hread "this" [] isKnown_this)
    exact (hemits.known _ (List.mem_singleton_self _)).object .call rfl
  · have hlowered : LoweredAt .structured computedObjectCall { cartPlace with object := "this" }
        { type := BlockType.functionCall
          label := BlockType.functionCall
          order := .zero false
          lines := ["await this.go();"] } := ⟨{}, {}, rfl⟩
    have hemits := hall _ _ _ _ (by decide) hlowered isKnown_this _ rfl
    exact List.cons_ne_nil _ _ (hemits.skipped rfl)

end Lowering

end ScreenFlow
