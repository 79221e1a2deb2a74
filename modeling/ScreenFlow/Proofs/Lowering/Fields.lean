import ScreenFlow.Lowering.Steps
import ScreenFlow.Proofs.Lowering.Position
import ScreenFlow.Proofs.Scope.Chain

/-!
The fields of the context.  They end every scope, and nothing that is lowered depends on them: screens
and steps are lowered alike with any fields, and also with none.
-/

namespace ScreenFlow

namespace Lowering

open Scope

/-- The same place in another scope. -/
abbrev Place.within (place : Place) (scope : Scope) : Place :=
  { place with scope }

section Alike

variable {first second : Scope} (halike : first.Alike second)
include halike

theorem call_alike (block : Block) (place : Place) :
    call block (place.within first) = call block (place.within second) := by
  simp only [call, funext halike.resolve]

theorem selectEntries_alike : selectEntries first = selectEntries second := by
  funext selection
  simp only [selectEntries, halike.resolveReference]

theorem elementCheck_alike : elementCheck first = elementCheck second := by
  funext kind name
  simp only [elementCheck, selectorEntries, selectEntries_alike halike]

theorem textCheck_alike : textCheck first = textCheck second := by
  funext kind item
  simp only [textCheck, elementCheck_alike halike, halike.resolve]

theorem assertionCheck_alike : assertionCheck first = assertionCheck second := by
  funext assertion
  simp only [assertionCheck, selectEntries_alike halike, halike.resolve]

theorem structuredUi_alike (block : Block) (place : Place) :
    structuredUi block (place.within first) = structuredUi block (place.within second) := by
  simp only [structuredUi, uiCheckEntries, elementCheck_alike halike, textCheck_alike halike,
    assertionCheck_alike halike]

theorem structuredData_alike (block : Block) (place : Place) :
    structuredData block (place.within first) = structuredData block (place.within second) := by
  have hcheck : dataCheck first = dataCheck second := by
    funext assertion
    simp only [dataCheck, halike.resolve]
  simp only [structuredData, hcheck]

theorem positionText_alike : positionText first = positionText second := by
  funext selection
  simp only [positionText, halike.resolveReference]

theorem locatorLines_alike (place : Place) :
    locatorLines (place.within first) = locatorLines (place.within second) := by
  have hlocator : locator (place.within first) = locator (place.within second) := by
    funext selector
    unfold locator
    dsimp only
    rw [positionText_alike halike]
  funext selector matcher
  unfold locatorLines
  rw [hlocator]

theorem assertionLines_alike (place : Place) :
    assertionLines (place.within first) = assertionLines (place.within second) := by
  have hargs : assertionArgs first = assertionArgs second := by
    funext selection args
    unfold assertionArgs
    rw [positionText_alike halike, funext halike.resolve]
  have hmatcher : matcherCall first = matcherCall second := by
    funext assertion
    unfold matcherCall
    rw [halike.resolve]
  funext assertion
  unfold assertionLines
  dsimp only
  rw [hargs, hmatcher]

theorem rawUi_alike (block : Block) (place : Place) :
    rawUi block (place.within first) = rawUi block (place.within second) := by
  have helement : elementLines (place.within first) = elementLines (place.within second) := by
    funext matcher name
    unfold elementLines
    rw [locatorLines_alike halike]
  have htext : textLines (place.within first) = textLines (place.within second) := by
    funext matcher item
    unfold textLines
    rw [helement, halike.resolve]
  have hgroups : uiLineGroups (place.within first) = uiLineGroups (place.within second) := by
    funext data
    unfold uiLineGroups
    rw [helement, htext, assertionLines_alike halike]
    rfl
  unfold rawUi
  rw [hgroups]

theorem rawData_alike (block : Block) (place : Place) :
    rawData block (place.within first) = rawData block (place.within second) := by
  have hline : dataLine first = dataLine second := by
    funext assertion
    unfold dataLine
    rw [halike.resolve, halike.resolve]
  unfold rawData
  dsimp only
  rw [hline]

theorem block_alike (mode : EmissionMode) (block : Block) (place : Place) :
    Lowering.block mode block (place.within first) =
      Lowering.block mode block (place.within second) := by
  have hui : uiIn mode block (place.within first) = uiIn mode block (place.within second) := by
    cases mode with
    | structured => exact structuredUi_alike halike block place
    | raw => exact rawUi_alike halike block place
  have hdata : dataIn mode block (place.within first) =
      dataIn mode block (place.within second) := by
    cases mode with
    | structured => exact structuredData_alike halike block place
    | raw => exact rawData_alike halike block place
  rw [block_eq, block_eq, call_alike halike, hui, hdata]
  -- custom code is emitted as it is
  rfl

theorem stepLines_alike (step : Step) (app : String) :
    stepLines step app first = stepLines step app second := by
  unfold stepLines stepStatement
  rw [funext halike.resolve]

end Alike

/-! Scopes with fields and without. -/

theorem build_fields (steps : List Step) (blocks : List Block) (fields : List String) :
    Scope.build steps blocks fields = (· ++ ofFields fields) <$> Scope.build steps blocks [] := by
  unfold Scope.build
  cases ofBlocks blocks with
  | error failure => rfl
  | ok scope =>
      change Except.ok _ = Except.ok (ofSteps steps ++ scope ++ [] ++ ofFields fields)
      rw [List.append_nil]

theorem scopes_fields (steps : List Step) (fields : List String) (blocks : List Block) :
    scopes steps fields blocks = List.map (· ++ ofFields fields) <$> scopes steps [] blocks := by
  unfold scopes
  rw [← mapM_map_result]
  simp only [build_fields steps _ fields]

/-- Without fields, every block is lowered as it is with them. -/
theorem blocksFrom_fields (mode : EmissionMode) (isNative : Bool) (object : String)
    (fields : List String) (position : Nat) (items : List (Block × Scope)) :
    blocksFrom mode isNative object position
        (items.map (Prod.map id (· ++ ofFields fields))) =
      blocksFrom mode isNative object position items := by
  induction items generalizing position with
  | nil => rfl
  | cons item rest ih =>
      rw [List.map_cons]
      unfold blocksFrom
      rw [ih]
      exact congrArg (· >>= _) (block_alike (append_ofFields_alike item.2 fields) mode item.1
        { isNative, object, scope := item.2, position })

theorem screen_fields (screen : Screen) (options : Options) :
    Lowering.screen screen options = Lowering.screen screen { options with fields := [] } := by
  unfold Lowering.screen
  refine bind_congr fun blocks => bind_congr fun decision => ?_
  rw [scopes_fields]
  cases scopes options.steps [] blocks with
  | error failure => rfl
  | ok found =>
      have hlower := blocksFrom_fields decision.mode options.isNative screen.instanceName
        options.fields 0 (blocks.zip found)
      rw [← List.zip_map_right] at hlower
      change blocksFrom _ _ _ 0 (blocks.zip (found.map _)) >>= _ =
        blocksFrom _ _ _ 0 (blocks.zip found) >>= _
      rw [hlower]

theorem stepsFrom_fields (earlier : List Step) (app : String) (fields : List String)
    (steps : List Step) :
    stepsFrom earlier app fields steps = stepsFrom earlier app [] steps := by
  induction steps generalizing earlier with
  | nil => rfl
  | cons step rest ih =>
      unfold stepsFrom
      refine bind_congr fun _ => ?_
      rw [ih]
      simp only [stepLines_alike (append_ofFields_alike (ofSteps earlier) fields),
        stepLines_alike (append_ofFields_alike (ofSteps earlier) [])]

/-- Whatever the fields of the context are, screens and steps are lowered to the same, with the same
failures and records.  A reference that is no expression already reads what a step or a block stores
under its name, and the context data when there is none; a field of that name does not matter. -/
theorem fields_change_nothing :
    (∀ (screen : Screen) (options : Options) (first second : List String) (ledger : Ledger),
      (Lowering.screen screen { options with fields := first }).run ledger =
        (Lowering.screen screen { options with fields := second }).run ledger) ∧
    (∀ (steps : List Step) (app : String) (first second : List String) (ledger : Ledger),
      (Lowering.steps steps app first).run ledger =
        (Lowering.steps steps app second).run ledger) ∧
    ∀ (steps : List Step) (blocks : List Block) (fields : List String) (scope : Scope),
      Scope.build steps blocks fields = .ok scope → ∀ reference,
        (isQualified (trimmed reference) = true →
          scope.resolveReference reference = trimmed reference) ∧
        (isQualified (trimmed reference) = false →
          (Stores steps blocks (nameRead reference) →
            scope.resolveReference reference =
              storedTarget (nameRead reference) ++ accessesRead reference) ∧
          (¬Stores steps blocks (nameRead reference) →
            scope.resolveReference reference =
              Script.member contextRoot (nameRead reference) ++ accessesRead reference)) := by
  refine ⟨fun screen options first second ledger => ?_, fun steps app first second ledger => ?_,
    fun steps blocks fields scope => resolveReference_build⟩
  · rw [screen_fields screen { options with fields := first },
      screen_fields screen { options with fields := second }]
  · unfold Lowering.steps
    rw [stepsFrom_fields [] app first, stepsFrom_fields [] app second]

def readTotal : Step where
  method := "readTotal"
  storeAs := some "total"

/-- The result of the step is read although a field has its name; what no step stores is read from
the context data, whether or not it is a field. -/
theorem total_read_beside_fields :
    ∃ scope, Scope.build [readTotal] [] ["total", "owner"] = .ok scope ∧
      isQualified (trimmed "total.id") = false ∧ Stores [readTotal] [] (nameRead "total.id") ∧
      scope.resolveReference "total.id" = "storedVars.total.id" ∧
      isQualified (trimmed "owner") = false ∧ ¬Stores [readTotal] [] (nameRead "owner") ∧
      scope.resolveReference "owner" = "ctx.data.owner" := by
  have htotal : isQualified (trimmed "total.id") = false := by decide +kernel
  have howner : isQualified (trimmed "owner") = false := by decide +kernel
  have hstored : Stores [readTotal] [] (nameRead "total.id") :=
    .inl ⟨readTotal, List.mem_singleton_self _, by decide +kernel⟩
  have hother : ¬Stores [readTotal] [] (nameRead "owner") := by
    rintro (⟨step, hstep, hname⟩ | ⟨block, hblock, -⟩)
    · rw [List.mem_singleton.mp hstep] at hname
      exact absurd hname (by decide +kernel)
    · cases hblock
  obtain ⟨-, -, hreads⟩ := fields_change_nothing
  have hbuild := build_nil [readTotal] ["total", "owner"]
  refine ⟨_, hbuild, htotal, hstored, ?_, howner, hother, ?_⟩
  · exact (((hreads _ _ _ _ hbuild "total.id").2 htotal).1 hstored).trans (by decide +kernel)
  · exact (((hreads _ _ _ _ hbuild "owner").2 howner).2 hother).trans (by decide +kernel)

end Lowering

end ScreenFlow
