import ScreenFlow.Proofs.Lowering.Mode
import ScreenFlow.Proofs.Screen.Selector

/-!
The failures of lowering.  Whatever lowering a screen fails with comes of reading a payload, as the
type of its block asks for, or of reading a selector.
-/

namespace ScreenFlow

namespace Lowering

variable {Expected : Failure → Prop}

/-! Blocks. -/

/-- What reading the payload of the block, as its type asks for, can fail with. -/
structure ReadsWith (Expected : Failure → Prop) (block : Block) : Prop where
  call : kindOf block = "function_call" → FailsOnly Expected block.callData
  checks : kindOf block = "ui_assertion" → FailsOnly Expected block.uiChecks
  selectors : kindOf block = "ui_assertion" → ∀ data, block.uiChecks = .ok data →
    selectorsRead data = true ∨ Expected .badValue
  comparisons : kindOf block = "data_assertion" → FailsOnly Expected block.dataAssertions

namespace ReadsWith

variable {block : Block}

theorem storedNames (hreads : ReadsWith Expected block) :
    FailsOnly Expected block.storedNames := by
  unfold Block.storedNames
  split_ifs with hcall hui
  · exact (hreads.call (kindOf_of_type hcall (by decide))).bind fun _ _ => .ok _
  · exact (hreads.checks (kindOf_of_type hui (by decide))).bind fun _ _ => .ok _
  · exact .ok _

theorem start (hreads : ReadsWith Expected block) : FailsOnly Expected (start block) :=
  hreads.storedNames.bind fun _ _ => .ok _

theorem hasFunctionAssertions (hreads : ReadsWith Expected block) :
    FailsOnly Expected (ModeDecision.hasFunctionAssertions block) := by
  unfold ModeDecision.hasFunctionAssertions
  split
  · next hui => exact (hreads.checks (kindOf_of_type hui (by decide))).bind fun _ _ => .ok _
  · exact .ok _

theorem isExternalCall (hreads : ReadsWith Expected block) (object : String) :
    FailsOnly Expected (ModeDecision.isExternalCall block object) := by
  unfold ModeDecision.isExternalCall
  split
  · next hcall => exact (hreads.call (kindOf_of_type hcall (by decide))).bind fun _ _ => .ok _
  · exact .ok _

end ReadsWith

theorem subject_failsOnly (item : UiChecks.Item) : FailsOnly (· = .badValue) item.subject := by
  cases item with
  | visible name | hidden name | text name _ | contains name _ =>
      exact Selector.parse_failsOnly name
  | truthy name | falsy name => exact .ok _
  | assertion assertion => exact Selector.parse_failsOnly assertion.function

theorem uiContent_failsOnly (mode : EmissionMode) (place : Place) (data : UiChecks) :
    FailsOnly (· = .badValue) (uiContent mode place data) := by
  cases mode with
  | structured =>
      refine FailsOnly.bind ?_ fun _ _ => .ok _
      rw [uiCheckEntries_eq]
      refine .mapM fun item _ => ?_
      obtain ⟨describe, hcheck⟩ := exists_itemCheck_eq place.scope item
      exact hcheck ▸ (subject_failsOnly item).bind fun _ _ => .ok _
  | raw =>
      refine FailsOnly.bind ?_ fun _ _ => .ok _
      rw [uiLineGroups_eq]
      refine .mapM fun item _ => ?_
      obtain ⟨describe, hlines⟩ := exists_itemLines_eq place item
      exact hlines ▸ (subject_failsOnly item).bind fun _ _ => .ok _

namespace ReadsWith

variable {block : Block}

theorem content (hreads : ReadsWith Expected block) (mode : EmissionMode) (place : Place) :
    FailsOnly Expected (contentOf mode block place) := by
  unfold contentOf
  split_ifs with hcall hcode hui hdata
  · exact (hreads.call hcall).bind fun _ _ => .ok _
  · exact .ok _
  · refine (hreads.checks hui).bind fun data hdata => ?_
    rcases hreads.selectors hui data hdata with hread | hbad
    · exact .of_isOk ((uiContent_isOk mode place data).trans hread)
    · exact (uiContent_failsOnly mode place data).mono (by rintro _ rfl; exact hbad)
  · exact (hreads.comparisons hdata).bind fun _ _ => .ok _
  · exact .ok _

theorem lowered (hreads : ReadsWith Expected block) (mode : EmissionMode) (place : Place) :
    Effect.FailsOnly Expected (Lowering.block mode block place) := by
  intro ledger
  have hresult : FailsOnly Expected (resultOf mode block place) :=
    hreads.start.bind fun _ _ => (hreads.content mode place).bind fun _ _ => .ok _
  rwa [← run_block_fst mode block place ledger] at hresult

end ReadsWith

/-! Screens. -/

end Lowering

end ScreenFlow
