import ScreenFlow.Proofs.Lowering.Position
import ScreenFlow.Proofs.Text.Blank

/-!
How the mode of a screen is decided.  There is a reason for the raw mode just when some block is one,
or the mode is forced; the platform says only what becomes of the reason.
-/

namespace ScreenFlow

theorem isBlankText_iff (text : String) : isBlankText text = true ↔ trimmedRight text = "" := by
  rw [isBlankText, Text.allBlank, List.all_eq_true, trimmedRight, Text.trimRight_eq_rdropWhile,
    String.ofList_eq_empty_iff, List.rdropWhile_eq_nil_iff]

namespace ModeDecision

theorem anyItem_eq_false_iff {α : Type} {test : α → Except Failure Bool} {items : List α} :
    anyItem test items = .ok false ↔ ∀ item ∈ items, test item = .ok false := by
  induction items with
  | nil => simp [anyItem]
  | cons item rest ih =>
      rw [List.forall_mem_cons, ← ih, anyItem]
      cases htest : test item with
      | error failure => simp [bind, Except.bind]
      | ok found => cases found <;> simp [bind, Except.bind, pure, Except.pure]

/-- Nothing about the block asks for the raw mode. -/
structure IsPlain (own : String) (block : Block) : Prop where
  code : hasCustomCode block = false
  functions : hasFunctionAssertions block = .ok false
  call : isExternalCall block own = .ok false

theorem rawReason_eq_none_iff {blocks : List Block} {own : String} {forceRaw : Bool} :
    rawReason blocks own forceRaw = .ok none ↔
      forceRaw = false ∧ ∀ block ∈ blocks, IsPlain own block := by
  have hplain : (∀ block ∈ blocks, IsPlain own block) ↔
      blocks.any hasCustomCode = false ∧ anyItem hasFunctionAssertions blocks = .ok false ∧
        anyItem (isExternalCall · own) blocks = .ok false := by
    rw [anyItem_eq_false_iff, anyItem_eq_false_iff, List.any_eq_false]
    constructor
    · intro hall
      exact ⟨fun block hmem => by simp [(hall block hmem).code],
        fun block hmem => (hall block hmem).functions, fun block hmem => (hall block hmem).call⟩
    · rintro ⟨hcode, hfunctions, hcall⟩ block hmem
      exact ⟨by simpa using hcode block hmem, hfunctions block hmem, hcall block hmem⟩
  rw [hplain, rawReason]
  cases forceRaw with
  | true => simp [pure, Except.pure]
  | false =>
      cases blocks.any hasCustomCode with
      | true => simp [pure, Except.pure]
      | false =>
          cases anyItem hasFunctionAssertions blocks with
          | error failure => simp [bind, Except.bind]
          | ok byFunction =>
              cases anyItem (isExternalCall · own) blocks with
              | error failure => cases byFunction <;> simp [bind, Except.bind, pure, Except.pure]
              | ok byCall =>
                  cases byFunction <;> cases byCall <;>
                    simp [bind, Except.bind, pure, Except.pure]

theorem select_eq_ok_iff {blocks : List Block} {own : String} {isNative forceRaw : Bool}
    {decision : ModeDecision} :
    select blocks own isNative forceRaw = .ok decision ↔
      ∃ reason, rawReason blocks own forceRaw = .ok reason ∧
        decision = ofReason reason isNative := by
  constructor
  · intro hselect
    obtain ⟨reason, hreason, hselect⟩ := exists_of_bind_eq_ok hselect
    cases hselect
    exact ⟨reason, hreason, rfl⟩
  · rintro ⟨reason, hreason, rfl⟩
    rw [select, hreason]
    rfl

@[simp] theorem ofReason_native (reason : Option RawReason) :
    ofReason reason true = { mode := .structured, downgradedFrom := reason } := by
  cases reason <;> rfl

@[simp] theorem reason_ofReason_browser (reason : Option RawReason) :
    (ofReason reason false).reason = reason := by
  cases reason <;> rfl

theorem mode_ofReason_browser (reason : Option RawReason) :
    (ofReason reason false).mode = .structured ↔ reason = none := by
  cases reason <;> simp [ofReason]

/-- Where there are both modes and none is forced, the blocks are structured when all are plain. -/
theorem mode_select_iff {blocks : List Block} {own : String} {decision : ModeDecision}
    (hselect : select blocks own false false = .ok decision) :
    decision.mode = .structured ↔ ∀ block ∈ blocks, IsPlain own block := by
  obtain ⟨reason, hreason, rfl⟩ := select_eq_ok_iff.mp hselect
  have hnone : reason = none ↔ rawReason blocks own false = .ok none := by
    rw [hreason, Except.ok.injEq]
  rw [mode_ofReason_browser, hnone, rawReason_eq_none_iff]
  exact and_iff_right rfl

end ModeDecision

namespace Lowering

theorem enabledBlocks_eq {screen : Screen} {all : List Block}
    (hall : screen.effectiveBlocks = .ok all) :
    enabledBlocks screen = .ok (Screen.byOrder Block.order (all.filter (·.enabled))) := by
  rw [enabledBlocks, hall]
  rfl

end Lowering

end ScreenFlow
