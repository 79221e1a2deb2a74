import ScreenFlow.Proofs.Lowering.Reported

/-!
What declared items are lowered to.  In either mode each item is lowered on its own, and the parts
are put together in the order of declaration: one descriptor, or one group of statements, for each
item.
-/

namespace ScreenFlow

namespace UiChecks.Item

def kind : Item → String
  | visible _ => "visible"
  | hidden _ => "hidden"
  | text _ _ => "text"
  | contains _ _ => "contains"
  | truthy _ => "truthy"
  | falsy _ => "falsy"
  | .assertion _ => "assertion"

/-- The key under which a descriptor names the field or the function. -/
def key : Item → String
  | visible _ => "field"
  | hidden _ => "field"
  | text _ _ => "field"
  | contains _ _ => "field"
  | truthy _ => "fn"
  | falsy _ => "fn"
  | .assertion _ => "fn"

def expected? : Item → Option Value
  | text _ expected => some expected
  | contains _ expected => some expected
  | assertion check =>
      match check.value with
      | .null => none
      | value => some value
  | _ => none

end UiChecks.Item

namespace Lowering

open UiChecks (Item)

/-! Descriptors. -/

/-- The descriptor says what kind of item it is for, which field or function, which of its elements
or results, and what is expected of them. -/
structure Describes (scope : Scope) (item : Item) (check : Check) : Prop where
  kind : check.lookup "check" = some (Script.quote item.kind)
  subject : ∃ selector, item.subject = .ok selector ∧
    check.lookup item.key = some (Script.quote selector.field) ∧
    (check.lookup "select").getD (Script.quote "single") = Script.quote selector.selection.name
  expected : check.lookup "value" = item.expected?.map scope.resolve

/-- A descriptor that starts with the kind and the subject describes the item, if the rest says what
is selected and expected. -/
theorem Describes.of_rest {scope : Scope} {item : Item} (selector : Selector) (rest : Check)
    (hsubject : item.subject = .ok selector)
    (hselect : (rest.lookup "select").getD (Script.quote "single") =
      Script.quote selector.selection.name)
    (hvalue : rest.lookup "value" = item.expected?.map scope.resolve) :
    Describes scope item
      (("check", Script.quote item.kind) :: (item.key, Script.quote selector.field) :: rest) where
  kind := rfl
  subject := ⟨selector, hsubject, by cases item <;> rfl, by cases item <;> exact hselect⟩
  expected := by cases item <;> exact hvalue

theorem lookup_selectEntries_of_ne (scope : Scope) (selection : Selection) {key : String}
    (hselect : key ≠ "select") (hindex : key ≠ "index") :
    (selectEntries scope selection).lookup key = none := by
  rw [List.lookup_eq_none_iff]
  unfold selectEntries
  cases selection.variableName? <;> cases selection.index? <;> simp [hselect, hindex]

theorem lookup_map_of_ne {α : Type} (key other : String) (hne : key ≠ other) (f : α → String)
    (items : List α) : (items.map fun a => (other, f a)).lookup key = none := by
  rw [List.lookup_eq_none_iff]
  simp [hne]

theorem lookup_map_toList {α : Type} (key : String) (f : α → String) (item? : Option α) :
    (item?.toList.map fun a => (key, f a)).lookup key = item?.map f := by
  cases item? <;> simp

theorem lookup_entryIf_of_ne {key other : String} (hne : key ≠ other) (condition : Bool)
    (expression : String) : (entryIf condition other expression).lookup key = none := by
  rw [List.lookup_eq_none_iff]
  unfold entryIf
  cases condition <;> simp [hne]

theorem describes_elementCheck {scope : Scope} {item : Item} {name : String} {check : Check}
    (hsubject : item.subject = Selector.parse name) (hkey : item.key = "field")
    (hexpected : item.expected? = none) (hcheck : elementCheck scope item.kind name = .ok check) :
    Describes scope item check := by
  obtain ⟨selector, hparse, hcheck⟩ := exists_of_bind_eq_ok hcheck
  cases hcheck
  rw [selectorEntries, ← hkey]
  refine .of_rest selector _ (hsubject.trans hparse) rfl ?_
  rw [hexpected, lookup_selectEntries_of_ne _ _ (by decide) (by decide)]
  rfl

theorem describes_textCheck {scope : Scope} {item : Item} {name : String} {expected : Value}
    {check : Check} (hsubject : item.subject = Selector.parse name) (hkey : item.key = "field")
    (hexpected : item.expected? = some expected)
    (hcheck : textCheck scope item.kind (name, expected) = .ok check) :
    Describes scope item check := by
  obtain ⟨element, helement, hcheck⟩ := exists_of_bind_eq_ok hcheck
  obtain ⟨selector, hparse, helement⟩ := exists_of_bind_eq_ok helement
  cases helement
  cases hcheck
  rw [selectorEntries, ← hkey, List.cons_append, List.cons_append]
  refine .of_rest selector _ (hsubject.trans hparse) rfl ?_
  rw [hexpected, List.lookup_append, lookup_selectEntries_of_ne _ _ (by decide) (by decide)]
  rfl

theorem describes_result {scope : Scope} {item : Item} {name : String}
    (hsubject : item.subject = .ok { field := name }) (hexpected : item.expected? = none) :
    Describes scope item [("check", Script.quote item.kind), (item.key, Script.quote name)] := by
  refine .of_rest { field := name } [] hsubject ?_ ?_
  · rw [List.lookup_nil, Option.getD_none, Selection.name]
  · rw [hexpected, List.lookup_nil, Option.map_none]

theorem assertionCheck_eq_ok {scope : Scope} {assertion : FunctionAssertion} {check : Check}
    (hcheck : assertionCheck scope assertion = .ok check) :
    ∃ selector, Selector.parse assertion.function = .ok selector ∧
      check = ("check", Script.quote "assertion") :: ("fn", Script.quote selector.field) ::
        ((if selector.selection = .single then [] else selectEntries scope selector.selection) ++
          ((Block.filled assertion.expect).toList.map fun name => ("expect", Script.quote name)) ++
          ((Item.assertion assertion).expected?.toList.map fun value =>
            ("value", scope.resolve value)) ++
          entryIf (!assertion.args.isEmpty) "args" (scope.resolve (.list assertion.args)) ++
          assertion.stored?.toList.map fun name => ("storeAs", Script.quote name)) := by
  obtain ⟨selector, hparse, hcheck⟩ := exists_of_bind_eq_ok hcheck
  refine ⟨selector, hparse, ?_⟩
  rw [← Except.ok.inj hcheck, Item.expected?]
  cases assertion.value <;> rfl

theorem describes_assertion {scope : Scope} {assertion : FunctionAssertion} {check : Check}
    (hcheck : assertionCheck scope assertion = .ok check) :
    Describes scope (.assertion assertion) check := by
  obtain ⟨selector, hparse, rfl⟩ := assertionCheck_eq_ok hcheck
  have hargs (key : String) (hne : key ≠ "args") :=
    lookup_entryIf_of_ne hne (!assertion.args.isEmpty) (scope.resolve (.list assertion.args))
  refine .of_rest selector _ hparse ?_ ?_
  · simp only [List.lookup_append, hargs "select" (by decide),
      lookup_map_of_ne "select" "expect" (by decide),
      lookup_map_of_ne "select" "value" (by decide),
      lookup_map_of_ne "select" "storeAs" (by decide), Option.or_none]
    split
    · next hsingle =>
        rw [hsingle]
        rfl
    · rfl
  · simp only [List.lookup_append, hargs "value" (by decide), lookup_map_toList,
      lookup_map_of_ne "value" "expect" (by decide),
      lookup_map_of_ne "value" "storeAs" (by decide), Option.or_none]
    split
    · rw [List.lookup_nil, Option.none_or]
    · rw [lookup_selectEntries_of_ne _ _ (by decide) (by decide), Option.none_or]

theorem describes_of_itemCheck {scope : Scope} {item : Item} {check : Check}
    (hcheck : itemCheck scope item = .ok check) : Describes scope item check := by
  cases item with
  | visible name => exact describes_elementCheck rfl rfl rfl hcheck
  | hidden name => exact describes_elementCheck rfl rfl rfl hcheck
  | text name expected => exact describes_textCheck rfl rfl rfl hcheck
  | contains name expected => exact describes_textCheck rfl rfl rfl hcheck
  | truthy name =>
      cases hcheck
      exact describes_result rfl rfl
  | falsy name =>
      cases hcheck
      exact describes_result rfl rfl
  | assertion assertion => exact describes_assertion hcheck

/-! Statements. -/

/-- The text stands somewhere in the line. -/
def Mentions (line text : String) : Prop :=
  ∃ before after, line = before ++ text ++ after

theorem Mentions.inside {line text : String} (hline : Mentions line text) (before after : String) :
    Mentions (before ++ line ++ after) text := by
  obtain ⟨left, right, rfl⟩ := hline
  exact ⟨before ++ left, right ++ after, by simp only [String.append_assoc]⟩

/-- A statement on what `expect` returns, possibly awaited, possibly in a loop. -/
def IsExpect (line : String) : Prop :=
  ∃ lead ∈ ["", "await ", indent, indent ++ "await "], ∃ subject matcher,
    line = lead ++ "expect(" ++ subject ++ ")." ++ matcher ++ ";"

/-- The group holds a check, and names the field or the function of the item on the object. -/
structure Asserts (object : String) (item : Item) (group : List String) : Prop where
  expects : ∃ line ∈ group, IsExpect line
  subject : ∃ selector, item.subject = .ok selector ∧
    ∃ line ∈ group, Mentions line (object ++ "." ++ selector.field)

theorem mentions_locator (place : Place) (selector : Selector) :
    Mentions (locator place selector) (place.object ++ "." ++ selector.field) := by
  have hsuffix (suffix : String) : Mentions (place.object ++ "." ++ selector.field ++ suffix)
      (place.object ++ "." ++ selector.field) := ⟨"", suffix, by rw [String.empty_append]⟩
  unfold locator
  cases selector.selection with
  | first => exact hsuffix _
  | any => exact hsuffix _
  | last => exact hsuffix _
  | position index => simpa only [String.append_assoc] using hsuffix (".nth(" ++ _ ++ ")")
  | fromVariable name => simpa only [String.append_assoc] using hsuffix (".nth(" ++ _ ++ ")")
  | single => simpa using hsuffix ""
  | all => simpa using hsuffix ""

theorem asserts_elementLines {place : Place} {item : Item} {matcher name : String}
    {lines : List String} (hsubject : item.subject = Selector.parse name)
    (hlines : elementLines place matcher name = .ok lines) : Asserts place.object item lines := by
  obtain ⟨selector, hparse, hlines⟩ := exists_of_bind_eq_ok hlines
  cases hlines
  rw [hparse] at hsubject
  unfold locatorLines
  split
  · refine ⟨⟨_, .tail _ (.head _), indent ++ "await ", by simp, "el", matcher, rfl⟩,
      selector, hsubject, _, .head _, "for (const el of await ", ".all()) \x7b", ?_⟩
    simp only [String.append_assoc]
  · refine ⟨⟨_, List.mem_append_right _ (.head _), "await ", by simp, locator place selector,
      matcher, rfl⟩, selector, hsubject, _, List.mem_append_right _ (.head _), ?_⟩
    simpa only [String.append_assoc] using
      (mentions_locator place selector).inside "await expect(" (")." ++ matcher ++ ";")

theorem asserts_resultLine {place : Place} {item : Item} {name : String}
    (hsubject : item.subject = .ok { field := name }) (matcher : String) :
    Asserts place.object item [resultLine place matcher name] := by
  have hexpect : resultLine place matcher name =
      "" ++ "expect(" ++ ("await " ++ place.object ++ "." ++ name ++ "()") ++ ")." ++ matcher ++
        ";" := by
    unfold resultLine
    rw [← String.toList_inj]
    simp
  have hmentions : resultLine place matcher name =
      "expect(await " ++ (place.object ++ "." ++ name) ++ ("())." ++ matcher ++ ";") := by
    unfold resultLine
    simp only [String.append_assoc]
  refine ⟨⟨_, List.mem_singleton_self _, "", by simp, _, _, hexpect⟩, { field := name }, hsubject,
    _, List.mem_singleton_self _, _, _, hmentions⟩

theorem mentions_callText (object method : String) (args : List String) (isAsync : Bool) :
    Mentions (callText object method args isAsync) (object ++ "." ++ method) := by
  refine ⟨if isAsync then "await " else "", "(" ++ commaSeparated args ++ ")", ?_⟩
  simp only [callText, String.append_assoc]

/-- What is checked of a call: where its result is stored, or else the call itself. -/
def checkedResult (selection : Selection) (target : Option String) (call : String) : String :=
  let subject := target.getD (if selection = .last then "(" ++ call ++ ")" else call)
  if selection = .last then subject ++ ".at(-1)" else subject

theorem mentions_checkedResult {call text : String} (hcall : Mentions call text)
    (selection : Selection) : Mentions (checkedResult selection none call) text := by
  unfold checkedResult
  split
  · simpa using (hcall.inside "(" ")").inside "" ".at(-1)"
  · exact hcall

/-- The call that an assertion is about. -/
def assertedCall (place : Place) (assertion : FunctionAssertion) (selector : Selector) : String :=
  callText place.object selector.field
    (assertionArgs place.scope selector.selection assertion.args) true

theorem assertionLines_eq_ok {place : Place} {assertion : FunctionAssertion} {lines : List String}
    (hlines : assertionLines place assertion = .ok lines) :
    ∃ selector call check, Selector.parse assertion.function = .ok selector ∧
      call = assertedCall place assertion selector ∧
      lines = ((assertion.stored?.map Scope.storedTarget).toList.map fun target =>
          target ++ " = " ++ call ++ ";") ++
        if selector.selection = .all then [
          "for (const result of " ++ checkedResult selector.selection
            (assertion.stored?.map Scope.storedTarget) call ++ ") \x7b",
          indent ++ "expect(result)." ++ check ++ ";",
          "\x7d"]
        else ["expect(" ++ checkedResult selector.selection
          (assertion.stored?.map Scope.storedTarget) call ++ ")." ++ check ++ ";"] := by
  obtain ⟨selector, hparse, hlines⟩ := exists_of_bind_eq_ok hlines
  exact ⟨selector, _, matcherCall place.scope assertion, hparse, rfl,
    (Except.ok.inj hlines).symm⟩

/-- What stores the result of a function holds the call, and else what checks the result does. -/
theorem mentions_assertionLines {place : Place} {assertion : FunctionAssertion}
    {lines : List String} {selector : Selector} {text : String}
    (hlines : assertionLines place assertion = .ok lines)
    (hparse : Selector.parse assertion.function = .ok selector)
    (hcall : Mentions (assertedCall place assertion selector) text) :
    ∃ line ∈ lines, Mentions line text := by
  obtain ⟨found, call, check, hfound, rfl, rfl⟩ := assertionLines_eq_ok hlines
  cases hfound.symm.trans hparse
  cases assertion.stored? with
  | some name => exact ⟨_, List.mem_append_left _ (.head _), hcall.inside _ _⟩
  | none =>
      have hresult := mentions_checkedResult hcall selector.selection
      split
      · exact ⟨_, .head _, hresult.inside _ _⟩
      · refine ⟨_, .head _, ?_⟩
        simpa only [Option.map_none, String.append_assoc] using
          hresult.inside "expect(" (")." ++ check ++ ";")

theorem asserts_assertionLines {place : Place} {assertion : FunctionAssertion}
    {lines : List String} (hlines : assertionLines place assertion = .ok lines) :
    Asserts place.object (.assertion assertion) lines := by
  obtain ⟨selector, call, check, hparse, -, hgroup⟩ := assertionLines_eq_ok hlines
  constructor
  · rw [hgroup]
    split
    · exact ⟨_, List.mem_append_right _ (.tail _ (.head _)), indent, by simp, "result", check, rfl⟩
    · exact ⟨_, List.mem_append_right _ (.head _), "", by simp, _, check, rfl⟩
  · exact ⟨selector, hparse, mentions_assertionLines hlines hparse (mentions_callText ..)⟩

theorem asserts_of_itemLines {place : Place} {item : Item} {lines : List String}
    (hlines : itemLines place item = .ok lines) : Asserts place.object item lines := by
  cases item with
  | visible name => exact asserts_elementLines rfl hlines
  | hidden name => exact asserts_elementLines rfl hlines
  | text name expected => exact asserts_elementLines rfl hlines
  | contains name expected => exact asserts_elementLines rfl hlines
  | truthy name =>
      cases hlines
      exact asserts_resultLine rfl _
  | falsy name =>
      cases hlines
      exact asserts_resultLine rfl _
  | assertion assertion => exact asserts_assertionLines hlines

/-! Comparisons of data. -/

/-- The descriptor says what is compared, and how. -/
structure DescribesData (scope : Scope) (assertion : DataAssertion) (check : Check) : Prop where
  kind : check.lookup "check" = some (Script.quote "data")
  left : check.lookup "left" = some (scope.resolve assertion.left)
  operator : check.lookup "operator" = some (Script.quote assertion.operator)

theorem describesData_dataCheck (scope : Scope) (assertion : DataAssertion) :
    DescribesData scope assertion (dataCheck scope assertion) :=
  ⟨rfl, rfl, rfl⟩

/-- A statement that fails whenever it is reached. -/
def IsThrow (line : String) : Prop :=
  ∃ message, line = "throw new Error(" ++ Script.quote message ++ ");"

/-- A comparison is checked if its operator is known, and fails if it is not. -/
def AssertsData (assertion : DataAssertion) (line : String) : Prop :=
  if (DataOperator.named? assertion.operator).isSome then IsExpect line else IsThrow line

theorem assertsData_dataLine (scope : Scope) (assertion : DataAssertion) :
    AssertsData assertion (dataLine scope assertion) := by
  unfold AssertsData dataLine
  cases DataOperator.named? assertion.operator with
  | none => exact ⟨_, rfl⟩
  | some operator =>
      have hexpect (subject label matcher : String) :
          "expect(" ++ subject ++ ", " ++ label ++ ")." ++ matcher ++ ";" =
            "" ++ "expect(" ++ (subject ++ ", " ++ label) ++ ")." ++ matcher ++ ";" := by
        simp only [String.append_assoc, String.empty_append]
      exact ⟨"", by simp, _, _, hexpect _ _ _⟩

/-! Blocks. -/

/-- The line of a descriptor. -/
def descriptorLine (check : Check) : String :=
  indent ++ Script.object check ++ ","

/-- The lines of descriptors are the indented ones. -/
def descriptorLines (lines : List String) : List String :=
  lines.filter (startsWith · indent)

theorem descriptorLines_append (lines others : List String) :
    descriptorLines (lines ++ others) = descriptorLines lines ++ descriptorLines others :=
  List.filter_append ..

theorem descriptorLines_timeoutLines (timeout : Option Int) :
    descriptorLines (timeoutLines timeout) = [] := by
  unfold descriptorLines timeoutLines
  cases timeout with
  | none => rfl
  | some milliseconds => split <;> simp [startsWith, indent]

theorem descriptorLines_checkLines (object : String) (checks : List Check) :
    descriptorLines (checkLines object checks) = checks.map descriptorLine := by
  have hstart : startsWith ("await ExpectImplication.validateChecks(" ++ object ++ ", [") indent =
      false := by
    simp [startsWith, indent, List.isPrefixOf]
  have hend : startsWith "], \x7b data: ctx.data, stored: storedVars \x7d);" indent = false := rfl
  have hkept : ∀ line ∈ checks.map descriptorLine, startsWith line indent = true := by
    rw [List.forall_mem_map]
    intro check _
    simp [descriptorLine, startsWith, indent]
  unfold checkLines
  split
  · next hempty =>
      rw [List.isEmpty_iff.mp hempty]
      rfl
  · change descriptorLines ([_] ++ checks.map descriptorLine ++ [_]) = _
    simp only [descriptorLines, List.filter_append, List.filter_eq_self.mpr hkept,
      List.filter_singleton, hstart, hend, cond_false, List.nil_append, List.append_nil]

theorem exists_start {block : Block} (hcall : kindOf block ≠ "function_call")
    (hui : kindOf block = "ui_assertion" → ∃ data, block.uiChecks = .ok data) :
    ∃ base, start block = .ok base := by
  unfold start Block.storedNames
  split_ifs with htype htype
  · exact absurd (kindOf_of_type htype rfl) hcall
  · obtain ⟨data, hdata⟩ := hui (kindOf_of_type htype rfl)
    rw [hdata]
    exact ⟨_, rfl⟩
  · exact ⟨_, rfl⟩

/-- A block is lowered to what its kind puts into its start. -/
theorem exists_run_of_content {mode : EmissionMode} {block : Block} {place : Place}
    {content : Content} (hstart : ∃ base, start block = .ok base)
    (hcontent : contentOf mode block place = .ok content) (ledger : Ledger) :
    ∃ lowered after, (Lowering.block mode block place).run ledger = (.ok lowered, after) ∧
      lowered.lines = content.lines ∧ lowered.checks = content.checks := by
  obtain ⟨base, hstart⟩ := hstart
  have hresult := resultOf_eq_ok_iff.mpr ⟨base, content, hstart, hcontent, rfl⟩
  exact ⟨_, _, Prod.ext ((run_block_fst ..).trans hresult) rfl, rfl, rfl⟩

section Checks

variable {block : Block} {data : UiChecks} (hkind : kindOf block = "ui_assertion")
  (hdata : block.uiChecks = .ok data) (place : Place) (ledger : Ledger)
include hkind hdata

theorem run_structured_checks {checks : List Check}
    (hchecks : uiCheckEntries place.scope data = .ok checks) :
    ∃ lowered after, (Lowering.block .structured block place).run ledger = (.ok lowered, after) ∧
      lowered.checks = checks ∧ descriptorLines lowered.lines = checks.map descriptorLine := by
  have hcontent : uiContent .structured place data =
      .ok { lines := timeoutLines data.timeout ++ checkLines place.object checks, checks } := by
    rw [uiContent, hchecks]
    rfl
  obtain ⟨lowered, after, hrun, hlines, hkept⟩ := exists_run_of_content
    (exists_start (by rw [hkind]; decide) fun _ => ⟨data, hdata⟩)
    ((contentOf_ui_iff hkind).mpr ⟨data, hdata, hcontent⟩) ledger
  refine ⟨lowered, after, hrun, hkept, ?_⟩
  rw [hlines, descriptorLines_append, descriptorLines_timeoutLines, descriptorLines_checkLines,
    List.nil_append]

theorem run_raw_checks {groups : List (List String)}
    (hgroups : uiLineGroups place data = .ok groups) :
    ∃ lowered after, (Lowering.block .raw block place).run ledger = (.ok lowered, after) ∧
      lowered.lines = groups.flatten := by
  have hcontent : uiContent .raw place data = .ok { lines := groups.flatten } := by
    rw [uiContent, hgroups]
    rfl
  obtain ⟨lowered, after, hrun, hlines, -⟩ := exists_run_of_content
    (exists_start (by rw [hkind]; decide) fun _ => ⟨data, hdata⟩)
    ((contentOf_ui_iff hkind).mpr ⟨data, hdata, hcontent⟩) ledger
  exact ⟨lowered, after, hrun, hlines⟩

end Checks

/-- Comparisons are lowered in both modes one by one; an operator that is not known is noted. -/
theorem run_comparisons {block : Block} {assertions : List DataAssertion}
    (hkind : kindOf block = "data_assertion") (hdata : block.dataAssertions = .ok assertions)
    (place : Place) (ledger : Ledger) :
    (∃ lowered after, (Lowering.block .structured block place).run ledger = (.ok lowered, after) ∧
      lowered.checks = assertions.map (dataCheck place.scope) ∧
      lowered.lines = checkLines place.object lowered.checks) ∧
    ∃ lowered after, (Lowering.block .raw block place).run ledger = (.ok lowered, after) ∧
      lowered.lines = assertions.map (dataLine place.scope) := by
  have hrun (mode : EmissionMode) := @exists_run_of_content mode _ _ _
    (exists_start (by rw [hkind]; decide) fun hui => absurd (hkind.symm.trans hui) (by decide))
    ((contentOf_data_iff hkind).mpr ⟨assertions, hdata, Eq.refl (dataContent mode place assertions)⟩)
    ledger
  obtain ⟨described, after, hdescribed, hlines, hchecks⟩ := hrun .structured
  obtain ⟨lowered, last, hlowered, hraw, -⟩ := hrun .raw
  exact ⟨⟨described, after, hdescribed, hchecks, by rw [hlines, hchecks]; rfl⟩,
    lowered, last, hlowered, hraw⟩

/-- Checks on elements are lowered in both modes exactly when their selectors can be read: to one
descriptor, on a line of its own, or to one group of statements for each item.  Comparisons of data
are lowered always, to one descriptor or one statement each.  All keep the order of declaration. -/
theorem items_lowered_iff (block : Block) (place : Place) (ledger : Ledger) :
    (∀ data, kindOf block = "ui_assertion" → block.uiChecks = .ok data →
      ((∀ name ∈ selectorNames data, Selector.IsSpelled name) ↔
        (∃ lowered after,
          (Lowering.block .structured block place).run ledger = (.ok lowered, after) ∧
          List.Forall₂ (Describes place.scope) data.items lowered.checks ∧
          descriptorLines lowered.lines = lowered.checks.map descriptorLine) ∧
        ∃ lowered after groups,
          (Lowering.block .raw block place).run ledger = (.ok lowered, after) ∧
          lowered.lines = groups.flatten ∧
          List.Forall₂ (Asserts place.object) data.items groups)) ∧
    ∀ assertions, kindOf block = "data_assertion" → block.dataAssertions = .ok assertions →
      (∃ lowered after,
        (Lowering.block .structured block place).run ledger = (.ok lowered, after) ∧
        List.Forall₂ (DescribesData place.scope) assertions lowered.checks ∧
        descriptorLines lowered.lines = lowered.checks.map descriptorLine) ∧
      ∃ lowered after,
        (Lowering.block .raw block place).run ledger = (.ok lowered, after) ∧
        List.Forall₂ AssertsData assertions lowered.lines := by
  refine ⟨fun data hkind hdata => ⟨fun hspelled => ?_, fun hlowered => ?_⟩,
    fun assertions hkind hdata => ⟨?_, ?_⟩⟩
  · have hread := (selectorsRead_iff data).mpr hspelled
    obtain ⟨checks, hchecks⟩ :=
      exists_of_isOk ((uiCheckEntries_isOk place.scope data).trans hread)
    obtain ⟨groups, hgroups⟩ := exists_of_isOk ((uiLineGroups_isOk place data).trans hread)
    constructor
    · obtain ⟨lowered, after, hrun, rfl, hlines⟩ :=
        run_structured_checks hkind hdata place ledger hchecks
      rw [uiCheckEntries_eq] at hchecks
      exact ⟨lowered, after, hrun,
        (forall₂_of_mapM_eq_ok hchecks).imp fun _ _ => describes_of_itemCheck, hlines⟩
    · obtain ⟨lowered, after, hrun, hlines⟩ := run_raw_checks hkind hdata place ledger hgroups
      rw [uiLineGroups_eq] at hgroups
      exact ⟨lowered, after, groups, hrun, hlines,
        (forall₂_of_mapM_eq_ok hgroups).imp fun _ _ => asserts_of_itemLines⟩
  · obtain ⟨⟨lowered, after, hrun, -⟩, -⟩ := hlowered
    obtain ⟨found, hfound, hread⟩ := checks_of_loweredAt ⟨ledger, after, hrun⟩ hkind
    cases hfound.symm.trans hdata
    exact (selectorsRead_iff data).mp hread
  · obtain ⟨⟨lowered, after, hrun, hchecks, hlines⟩, -⟩ :=
      run_comparisons hkind hdata place ledger
    refine ⟨lowered, after, hrun, ?_, ?_⟩
    · rw [hchecks, List.forall₂_map_right_iff, List.forall₂_same]
      exact fun assertion _ => describesData_dataCheck place.scope assertion
    · rw [hlines, descriptorLines_checkLines]
  · obtain ⟨-, lowered, after, hrun, hlines⟩ := run_comparisons hkind hdata place ledger
    refine ⟨lowered, after, hrun, ?_⟩
    rw [hlines, List.forall₂_map_right_iff, List.forall₂_same]
    exact fun assertion _ => assertsData_dataLine place.scope assertion

def checkoutPlace : Place where
  isNative := false
  object := "checkout"
  scope := []
  position := 0

/-- An item of most kinds, and a result that is stored. -/
def checkoutChecks : Block where
  type := BlockType.uiAssertion
  data := [
    ("visible", .list [.text "rows[last]"]),
    ("checks", .map [(.name "text", .map [(.name "title", .text "Basket")])]),
    ("truthy", .list [.text "isOpen"]),
    ("assertions", .list [.map [
      (.name "fn", .text "getTotal"), (.name "value", .int 3), (.name "storeAs", .text "total")]])]

def totalComparisons : Block where
  type := BlockType.dataAssertion
  assertions := [{ left := .text "\x7b\x7btotal\x7d\x7d", operator := "roughly", right := .int 3 }]

theorem checkoutChecks_lowered :
    (∃ data, checkoutChecks.uiChecks = .ok data ∧ data.items.length = 4 ∧
      (∃ lowered after,
        (Lowering.block .structured checkoutChecks checkoutPlace).run {} = (.ok lowered, after) ∧
        List.Forall₂ (Describes []) data.items lowered.checks) ∧
      ∃ lowered after groups,
        (Lowering.block .raw checkoutChecks checkoutPlace).run {} = (.ok lowered, after) ∧
        lowered.lines = groups.flatten ∧ List.Forall₂ (Asserts "checkout") data.items groups) ∧
    ∃ lowered after,
      (Lowering.block .raw totalComparisons checkoutPlace).run {} = (.ok lowered, after) ∧
      List.Forall₂ AssertsData totalComparisons.assertions lowered.lines := by
  have hdata : checkoutChecks.uiChecks = .ok {
      visible := ["rows[last]"]
      checks := { text := [("title", .text "Basket")] }
      truthy := ["isOpen"]
      assertions := [{ function := "getTotal", value := .int 3, storeAs := some "total" }] } := rfl
  obtain ⟨⟨lowered, after, hrun, hchecks, -⟩, hraw⟩ :=
    ((items_lowered_iff checkoutChecks checkoutPlace {}).1 _ (by decide) hdata).mp
      ((selectorsRead_iff _).mp rfl)
  exact ⟨⟨_, hdata, rfl, ⟨lowered, after, hrun, hchecks⟩, hraw⟩,
    ((items_lowered_iff totalComparisons checkoutPlace {}).2 _ (by decide) rfl).2⟩

/-- A row at a position in digits that spell no number. -/
def squaredRow : Block where
  type := BlockType.uiAssertion
  data := [("visible", .list [.text "rows[²]"])]

/-- Whatever checks can be read are lowered in the mode. -/
def LowersAll (mode : EmissionMode) : Prop :=
  ∀ block place data ledger, kindOf block = "ui_assertion" → block.uiChecks = .ok data →
    ∃ lowered after, (Lowering.block mode block place).run ledger = (.ok lowered, after)

theorem not_lowersAll_squaredRow : ¬LowersAll .structured ∧ ¬LowersAll .raw := by
  have hdata : squaredRow.uiChecks = .ok { visible := ["rows[²]"] } := rfl
  have hfails (mode : EmissionMode) :
      (Lowering.block mode squaredRow checkoutPlace).run {} = (.error .badValue, {}) := by
    cases mode <;> rfl
  have hnone (mode : EmissionMode) : ¬LowersAll mode := fun hall => by
    obtain ⟨lowered, after, hrun⟩ := hall squaredRow checkoutPlace _ {} (by decide) hdata
    cases (hfails mode).symm.trans hrun
  exact ⟨hnone .structured, hnone .raw⟩

end Lowering

end ScreenFlow
