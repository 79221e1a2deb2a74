import ScreenFlow.Proofs.Lowering.Screen

/-!
The two modes side by side.  In either mode what is declared is lowered item by item, so that a screen
that can be lowered in one mode can be lowered in the other; its plan asks for the same references, and
the mode decides the lines and the checks only.
-/

namespace ScreenFlow

namespace UiChecks

/-- What checks on elements declare. -/
inductive Item where
  | visible (name : String)
  | hidden (name : String)
  | text (name : String) (expected : Value)
  | contains (name : String) (expected : Value)
  | truthy (name : String)
  | falsy (name : String)
  | assertion (assertion : FunctionAssertion)

/-- All that the checks declare, kind after kind. -/
def items (data : UiChecks) : List Item :=
  data.visible.map .visible ++ data.hidden.map .hidden ++
    data.checks.text.map (fun entry => .text entry.1 entry.2) ++
    data.checks.contains.map (fun entry => .contains entry.1 entry.2) ++
    data.truthy.map .truthy ++ data.falsy.map .falsy ++ data.assertions.map .assertion

/-- What the item is about: elements that a field finds, or the result of a function. -/
def Item.subject : Item → Except Failure Selector
  | visible name => Selector.parse name
  | hidden name => Selector.parse name
  | text name _ => Selector.parse name
  | contains name _ => Selector.parse name
  | truthy name => .ok { field := name }
  | falsy name => .ok { field := name }
  | assertion check => Selector.parse check.function

end UiChecks

namespace Lowering

open Effect
open UiChecks (Item)

/-- The blocks call the same object, or none. -/
abbrev SameCall (first second : LoweredBlock) : Prop :=
  first.external = second.external

/-! Checks on the elements of a screen. -/

/-- The items are worked on one after the other; nothing can go wrong at a plain function name. -/
theorem mapM_items {β : Type} (f : Item → Except Failure β) (truthy falsy : String → β)
    (htruthy : ∀ name, f (.truthy name) = .ok (truthy name))
    (hfalsy : ∀ name, f (.falsy name) = .ok (falsy name)) (data : UiChecks) :
    data.items.mapM f = do
      let visible ← data.visible.mapM fun name => f (.visible name)
      let hidden ← data.hidden.mapM fun name => f (.hidden name)
      let text ← data.checks.text.mapM fun entry => f (.text entry.1 entry.2)
      let contains ← data.checks.contains.mapM fun entry => f (.contains entry.1 entry.2)
      let assertions ← data.assertions.mapM fun assertion => f (.assertion assertion)
      return visible ++ hidden ++ text ++ contains ++ data.truthy.map truthy ++
        data.falsy.map falsy ++ assertions := by
  have htruthy : f ∘ Item.truthy = fun name => pure (truthy name) := funext htruthy
  have hfalsy : f ∘ Item.falsy = fun name => pure (falsy name) := funext hfalsy
  simp [UiChecks.items, List.mapM_append, List.mapM_map, htruthy, hfalsy, Function.comp_def]

def itemCheck (scope : Scope) : Item → Except Failure Check
  | .visible name => elementCheck scope "visible" name
  | .hidden name => elementCheck scope "hidden" name
  | .text name expected => textCheck scope "text" (name, expected)
  | .contains name expected => textCheck scope "contains" (name, expected)
  | .truthy name => .ok (resultCheck "truthy" name)
  | .falsy name => .ok (resultCheck "falsy" name)
  | .assertion assertion => assertionCheck scope assertion

theorem uiCheckEntries_eq (scope : Scope) (data : UiChecks) :
    uiCheckEntries scope data = data.items.mapM (itemCheck scope) :=
  (mapM_items (itemCheck scope) _ _ (fun _ => rfl) (fun _ => rfl) data).symm

def itemLines (place : Place) : Item → Except Failure (List String)
  | .visible name => elementLines place "toBeVisible()" name
  | .hidden name => elementLines place hiddenMatcher name
  | .text name expected => textLines place "toHaveText" (name, expected)
  | .contains name expected => textLines place "toContainText" (name, expected)
  | .truthy name => .ok [resultLine place "toBeTruthy()" name]
  | .falsy name => .ok [resultLine place "toBeFalsy()" name]
  | .assertion assertion => assertionLines place assertion

theorem uiLineGroups_eq (place : Place) (data : UiChecks) :
    uiLineGroups place data = data.items.mapM (itemLines place) :=
  (mapM_items (itemLines place) _ _ (fun _ => rfl) (fun _ => rfl) data).symm

/-- An item becomes what its subject does: one descriptor for the selector that is read. -/
theorem exists_itemCheck_eq (scope : Scope) (item : Item) :
    ∃ describe : Selector → Check, itemCheck scope item = do return describe (← item.subject) := by
  cases item with
  | visible name | hidden name => exact ⟨_, rfl⟩
  | text name expected | contains name expected =>
      exact ⟨fun selector => _ :: selectorEntries scope selector ++ [("value", scope.resolve expected)],
        bind_assoc _ _ _⟩
  | truthy name | falsy name => exact ⟨fun _ => _, rfl⟩
  | assertion assertion => exact ⟨_, rfl⟩

theorem exists_itemLines_eq (place : Place) (item : Item) :
    ∃ describe : Selector → List String, itemLines place item = do
      return describe (← item.subject) := by
  cases item with
  | visible name | hidden name | text name expected | contains name expected => exact ⟨_, rfl⟩
  | truthy name | falsy name => exact ⟨fun _ => _, rfl⟩
  | assertion assertion => exact ⟨_, rfl⟩

/-- Whether every selector of the checks can be read. -/
def selectorsRead (data : UiChecks) : Bool :=
  let isRead (name : String) := (Selector.parse name).isOk
  data.visible.all isRead && data.hidden.all isRead && data.checks.text.all (isRead ·.1) &&
    data.checks.contains.all (isRead ·.1) && data.assertions.all (isRead ·.function)

theorem selectorsRead_eq (data : UiChecks) :
    selectorsRead data = data.items.all (·.subject.isOk) := by
  -- a plain function name can always be read
  have hplain (names : List String) (item : String → Item)
      (hitem : ∀ name, (item name).subject.isOk = true) :
      (names.map item).all (·.subject.isOk) = true := by
    simp [List.all_map, hitem]
  rw [UiChecks.items, List.all_append, List.all_append, List.all_append, List.all_append,
    List.all_append, List.all_append, hplain data.truthy .truthy fun _ => rfl,
    hplain data.falsy .falsy fun _ => rfl, Bool.and_true, Bool.and_true]
  simp only [selectorsRead, List.all_map, Function.comp_def, Item.subject]

theorem uiCheckEntries_isOk (scope : Scope) (data : UiChecks) :
    (uiCheckEntries scope data).isOk = selectorsRead data := by
  rw [uiCheckEntries_eq, isOk_mapM, selectorsRead_eq]
  congr 1
  funext item
  obtain ⟨describe, hcheck⟩ := exists_itemCheck_eq scope item
  rw [hcheck, isOk_bind_pure]

theorem uiLineGroups_isOk (place : Place) (data : UiChecks) :
    (uiLineGroups place data).isOk = selectorsRead data := by
  rw [uiLineGroups_eq, isOk_mapM, selectorsRead_eq]
  congr 1
  funext item
  obtain ⟨describe, hlines⟩ := exists_itemLines_eq place item
  rw [hlines, isOk_bind_pure]

theorem uiContent_isOk (mode : EmissionMode) (place : Place) (data : UiChecks) :
    (uiContent mode place data).isOk = selectorsRead data := by
  cases mode with
  | structured => exact (isOk_bind_pure _ _).trans (uiCheckEntries_isOk place.scope data)
  | raw => exact (isOk_bind_pure _ _).trans (uiLineGroups_isOk place data)

/-! Blocks. -/

/-- In either mode a block asks for the same, and it calls the same object. -/
theorem contentOf_ok {mode : EmissionMode} {block : Block} {place : Place} {content : Content}
    (hcontent : contentOf mode block place = .ok content) (another : EmissionMode) :
    ∃ other, contentOf another block place = .ok other ∧ content.external = other.external := by
  unfold contentOf at hcontent ⊢
  split_ifs at hcontent ⊢
  · exact ⟨content, hcontent, rfl⟩
  · exact ⟨content, hcontent, rfl⟩
  · obtain ⟨data, hdata, hcontent⟩ := exists_of_bind_eq_ok hcontent
    have hread := uiContent_isOk mode place data
    rw [hcontent, ← uiContent_isOk another] at hread
    obtain ⟨other, hother⟩ := exists_of_isOk hread.symm
    rw [hdata]
    exact ⟨other, hother, (uiContent_external hcontent).trans (uiContent_external hother).symm⟩
  · obtain ⟨assertions, hdata, hcontent⟩ := exists_of_bind_eq_ok hcontent
    cases hcontent
    rw [hdata]
    refine ⟨_, rfl, ?_⟩
    cases mode <;> cases another <;> rfl
  · exact ⟨content, hcontent, rfl⟩

/-- For blocks to be lowered side by side it is enough that their results are. -/
theorem follows_of_results {mode another : EmissionMode} {first second : Block}
    {place other : Place} {R : LoweredBlock → LoweredBlock → Prop}
    (hresults : ∀ lowered, resultOf mode first place = .ok lowered →
      ∃ result, resultOf another second other = .ok result ∧ R lowered result) :
    Follows Ledger.SameReferences Ledger.SameReferences R
      (Lowering.block mode first place) (Lowering.block another second other) := by
  intro ledger otherLedger halike lowered after hrun
  obtain ⟨result, hresult, hrelated⟩ := hresults lowered (resultOf_of_run hrun)
  have hkept := block_moves mode first place ledger
  have hkeptOther := block_moves another second other otherLedger
  rw [hrun] at hkept
  exact ⟨result, _, Prod.ext ((run_block_fst ..).trans hresult) rfl, hrelated,
    Ledger.SameReferences.of_kept _ _ _ _ hkept hkeptOther halike⟩

theorem block_follows (mode other : EmissionMode) (block : Block) (place : Place) :
    Follows Ledger.SameReferences Ledger.SameReferences SameCall
      (Lowering.block mode block place) (Lowering.block other block place) := by
  refine follows_of_results fun lowered hresult => ?_
  obtain ⟨base, content, hstart, hcontent, rfl⟩ := resultOf_eq_ok_iff.mp hresult
  obtain ⟨another, hanother, hexternal⟩ := contentOf_ok hcontent other
  exact ⟨_, resultOf_eq_ok_iff.mpr ⟨base, another, hstart, hanother, rfl⟩, hexternal⟩

theorem blocksFrom_follows (mode other : EmissionMode) (isNative : Bool) (object : String)
    (position : Nat) (blocks : List (Block × Scope)) :
    Follows Ledger.SameReferences Ledger.SameReferences
      (fun first second =>
        first.map LoweredBlock.external = second.map LoweredBlock.external)
      (blocksFrom mode isNative object position blocks)
      (blocksFrom other isNative object position blocks) := by
  induction blocks generalizing position with
  | nil => exact .pure rfl
  | cons item rest ih =>
      refine (block_follows mode other item.1 _).bind fun first second hfirst => ?_
      refine (ih (position + 1)).bind fun firsts seconds hrest => .pure ?_
      rw [List.map_cons, List.map_cons, hfirst, hrest]

/-! Screens. -/

theorem callData_of_start {block : Block} {base : LoweredBlock} (hstart : start block = .ok base)
    (htype : block.type = BlockType.functionCall) : ∃ data, block.callData = .ok data := by
  obtain ⟨names, hnames, -⟩ := exists_of_bind_eq_ok hstart
  simp only [Block.storedNames, htype, if_true] at hnames
  obtain ⟨data, hdata, -⟩ := exists_of_bind_eq_ok hnames
  exact ⟨data, hdata⟩

theorem anyItem_ok {test : Block → Except Failure Bool} {blocks : List Block}
    (htest : ∀ block ∈ blocks, ∃ found, test block = .ok found) :
    ∃ found, ModeDecision.anyItem test blocks = .ok found := by
  induction blocks with
  | nil => exact ⟨false, rfl⟩
  | cons block rest ih =>
      obtain ⟨found, hfound⟩ := htest block List.mem_cons_self
      obtain ⟨others, hothers⟩ := ih fun other hmem => htest other (List.mem_cons_of_mem _ hmem)
      cases found with
      | true => exact ⟨true, by simp only [ModeDecision.anyItem, hfound]; rfl⟩
      | false => exact ⟨others, by simp only [ModeDecision.anyItem, hfound]; exact hothers⟩

/-- Blocks that have been lowered have a mode, whether or not the raw one is forced. -/
theorem select_ok {blocks : List Block} (hstart : ∀ block ∈ blocks, ∃ base, start block = .ok base)
    (object : String) (isNative forceRaw : Bool) :
    ∃ decision, ModeDecision.select blocks object isNative forceRaw = .ok decision := by
  have hfunctions : ∀ block ∈ blocks, ∃ found,
      ModeDecision.hasFunctionAssertions block = .ok found := by
    intro block hmem
    obtain ⟨base, hbase⟩ := hstart block hmem
    unfold ModeDecision.hasFunctionAssertions
    split
    · next htype =>
        obtain ⟨checks, hchecks⟩ := uiChecks_of_start hbase htype
        exact ⟨_, by rw [hchecks]; rfl⟩
    · exact ⟨false, rfl⟩
  have hcalls : ∀ block ∈ blocks, ∃ found,
      ModeDecision.isExternalCall block object = .ok found := by
    intro block hmem
    obtain ⟨base, hbase⟩ := hstart block hmem
    unfold ModeDecision.isExternalCall
    split
    · next htype =>
        obtain ⟨data, hdata⟩ := callData_of_start hbase htype
        exact ⟨_, by rw [hdata]; rfl⟩
    · exact ⟨false, rfl⟩
  obtain ⟨byFunction, hfunction⟩ := anyItem_ok hfunctions
  obtain ⟨byCall, hcall⟩ := anyItem_ok hcalls
  have hreason : ∃ reason, ModeDecision.rawReason blocks object forceRaw = .ok reason := by
    unfold ModeDecision.rawReason
    rw [hfunction, hcall]
    cases forceRaw <;> cases blocks.any ModeDecision.hasCustomCode <;> cases byFunction <;>
      cases byCall <;> exact ⟨_, rfl⟩
  obtain ⟨reason, hreason⟩ := hreason
  exact ⟨_, by unfold ModeDecision.select; rw [hreason]; rfl⟩

theorem callReferences_eq_of_externals {blocks : List Block} {first second : List LoweredBlock}
    (hexternal : first.map LoweredBlock.external = second.map LoweredBlock.external) :
    callReferences blocks first = callReferences blocks second := by
  have hzip (lowered : List LoweredBlock) : callReferences blocks lowered =
      (blocks.zip (lowered.map LoweredBlock.external)).filterMap fun pair =>
        pair.2.map (callReference pair.1) := by
    rw [List.zip_map_right, List.filterMap_map]
    rfl
  rw [hzip, hzip, hexternal]

/-- A screen that can be lowered in one mode can be lowered in the other, and then the same objects
are made available. -/
theorem screen_follows (screen : Screen) (options : Options) (forceRaw : Bool) :
    Follows Ledger.SameReferences Ledger.SameReferences (fun _ _ => True)
      (Lowering.screen screen options) (Lowering.screen screen { options with forceRaw }) := by
  intro ledger other halike plan after hrun
  obtain ⟨blocks, found, middle, hfirst, rfl⟩ := exists_planned_of_run hrun
  -- what has been lowered in one mode is lowered again in the mode of the other options
  obtain ⟨another, hanother⟩ := select_ok (started_of_forall₂ hfirst.loweredFrom)
    screen.instanceName options.isNative forceRaw
  obtain ⟨results, last, hresults, hexternals, hkept⟩ :=
    blocksFrom_follows plan.decision.mode another.mode _ _ _ _ ledger other halike _ _
      hfirst.lowered
  obtain ⟨second, hsecond, rfl, rfl⟩ :=
    exists_planned { options with forceRaw } hfirst.enabled hanother hfirst.scopes hresults
  have hreferences : plan.references = second.references := by
    unfold EmissionPlan.references
    rw [hfirst.external, hsecond.external, hfirst.own, hsecond.own,
      callReferences_eq_of_externals hexternals]
  refine ⟨second, _, hsecond.run, trivial, ?_⟩
  rw [hreferences]
  exact hkept.addAll second.references

end Lowering

end ScreenFlow
