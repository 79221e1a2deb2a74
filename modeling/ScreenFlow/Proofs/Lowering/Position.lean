import ScreenFlow.Proofs.Lowering.Mode
import ScreenFlow.Proofs.Scope.Chain

/-!
The blocks of a screen, position by position.  Each is lowered in the scope of its own position, in
which a reference reads a stored result just when a step, or a block at an earlier position, stores
it.
-/

namespace ScreenFlow

namespace Lowering

open Scope

/-- From some ledger, lowering the block at the place gives this result. -/
def LoweredAt (mode : EmissionMode) (block : Block) (place : Place) (lowered : LoweredBlock) :
    Prop :=
  ∃ before after, (Lowering.block mode block place).run before = (.ok lowered, after)

theorem loweredAt_iff {mode : EmissionMode} {block : Block} {place : Place}
    {lowered : LoweredBlock} :
    LoweredAt mode block place lowered ↔ ∃ base content, start block = .ok base ∧
      contentOf mode block place = .ok content ∧ lowered = complete base content := by
  rw [← resultOf_eq_ok_iff]
  constructor
  · rintro ⟨before, after, hrun⟩
    exact resultOf_of_run hrun
  · exact fun hresult => ⟨{}, _, Prod.ext ((run_block_fst ..).trans hresult) rfl⟩

/-- What lowering the checks of a block has read of it. -/
theorem checks_of_loweredAt {mode : EmissionMode} {block : Block} {place : Place}
    {lowered : LoweredBlock} (hlowered : LoweredAt mode block place lowered)
    (hkind : kindOf block = "ui_assertion") :
    ∃ data, block.uiChecks = .ok data ∧ selectorsRead data = true := by
  obtain ⟨base, content, -, hcontent, -⟩ := loweredAt_iff.mp hlowered
  obtain ⟨data, hdata, hcontent⟩ := (contentOf_ui_iff hkind).mp hcontent
  have hread := uiContent_isOk mode place data
  rw [hcontent] at hread
  exact ⟨data, hdata, hread.symm⟩

theorem blocksFrom_loweredAt {mode : EmissionMode} {isNative : Bool} {object : String}
    {position : Nat} {items : List (Block × Scope)} {before after : Ledger}
    {lowered : List LoweredBlock}
    (hrun : (blocksFrom mode isNative object position items).run before = (.ok lowered, after))
    {index : Nat} {block : Block} {scope : Scope} (hitem : items[index]? = some (block, scope)) :
    ∃ result, lowered[index]? = some result ∧
      LoweredAt mode block { isNative, object, scope, position := position + index } result := by
  induction items generalizing position before lowered index with
  | nil => cases hitem
  | cons item rest ih =>
      obtain ⟨first, middle, hfirst, hrun⟩ := Effect.exists_of_run_bind_eq_ok hrun
      obtain ⟨others, last, hrest, hrun⟩ := Effect.exists_of_run_bind_eq_ok hrun
      cases hrun
      cases index with
      | zero =>
          cases hitem
          exact ⟨first, rfl, before, middle, hfirst⟩
      | succ index =>
          obtain ⟨result, hresult, hlowered⟩ := ih hrest hitem
          refine ⟨result, hresult, ?_⟩
          rw [Nat.add_right_comm] at hlowered
          exact hlowered

/-- The blocks of a plan are the enabled blocks of the screen, each lowered in the scope of its
position. -/
theorem screen_loweredAt {screen : Screen} {options : Options} {ledger after : Ledger}
    {plan : EmissionPlan}
    (hrun : (Lowering.screen screen options).run ledger = (.ok plan, after)) :
    ∃ blocks found, enabledBlocks screen = .ok blocks ∧
      scopes options.steps options.fields blocks = .ok found ∧
      ∀ position block scope, blocks[position]? = some block → found[position]? = some scope →
        ∃ lowered, plan.blocks[position]? = some lowered ∧
          LoweredAt plan.decision.mode block
            { isNative := options.isNative, object := screen.instanceName, scope, position }
            lowered := by
  obtain ⟨blocks, found, middle, hmade, -⟩ := exists_planned_of_run hrun
  refine ⟨blocks, found, hmade.enabled, hmade.scopes, fun position block scope hblock hscope => ?_⟩
  have hitem : (blocks.zip found)[position]? = some (block, scope) :=
    List.getElem?_zip_eq_some.mpr ⟨hblock, hscope⟩
  obtain ⟨result, hresult, hlowered⟩ := blocksFrom_loweredAt hmade.lowered hitem
  rw [Nat.zero_add] at hlowered
  exact ⟨result, hresult, hlowered⟩

theorem exists_scope_of_block {steps : List Step} {fields : List String} {blocks : List Block}
    {found : List Scope} (hscopes : scopes steps fields blocks = .ok found) {position : Nat}
    {block : Block} (hblock : blocks[position]? = some block) :
    ∃ scope, found[position]? = some scope := by
  obtain ⟨hlt, -⟩ := List.getElem?_eq_some_iff.mp hblock
  exact ⟨_, List.getElem?_eq_getElem (scopes_length hscopes ▸ hlt)⟩

theorem exists_lowered_of_plan {screen : Screen} {options : Options} {ledger after : Ledger}
    {plan : EmissionPlan}
    (hrun : (Lowering.screen screen options).run ledger = (.ok plan, after))
    {blocks : List Block} (hblocks : enabledBlocks screen = .ok blocks) {position : Nat}
    {block : Block} (hblock : blocks[position]? = some block) :
    ∃ place lowered, plan.blocks[position]? = some lowered ∧
      LoweredAt plan.decision.mode block place lowered := by
  obtain ⟨others, found, hothers, hscopes, hplan⟩ := screen_loweredAt hrun
  cases hblocks.symm.trans hothers
  obtain ⟨scope, hscope⟩ := exists_scope_of_block hscopes hblock
  obtain ⟨lowered, hresult, hlowered⟩ := hplan position block scope hblock hscope
  exact ⟨_, lowered, hresult, hlowered⟩

/-! Scopes. -/

theorem scopes_ok (steps : List Step) (fields : List String) {blocks : List Block}
    (hread : ∀ block ∈ blocks, ∃ names, block.storedNames = .ok names) :
    ∃ found, scopes steps fields blocks = .ok found := by
  apply exists_of_isOk
  unfold scopes
  rw [isOk_mapM, List.all_eq_true]
  intro position _
  obtain ⟨stored, hbuild, -⟩ := build_ok steps fields fun block hmem =>
    hread block (List.mem_of_mem_take hmem)
  rw [hbuild]
  rfl

theorem build_of_scopes {steps : List Step} {fields : List String} {blocks : List Block}
    {found : List Scope} (hscopes : scopes steps fields blocks = .ok found) {position : Nat}
    {scope : Scope} (hscope : found[position]? = some scope) :
    Scope.build steps (blocks.take position) fields = .ok scope := by
  have hall := forall₂_of_mapM_eq_ok hscopes
  obtain ⟨hlt, hget⟩ := List.getElem?_eq_some_iff.mp hscope
  have hbuild := hall.get (hall.length_eq ▸ hlt) hlt
  simpa [hget] using hbuild

theorem reference_isAccess_iff {steps : List Step} {blocks : List Block} {fields : List String}
    {scope : Scope} (hbuild : Scope.build steps blocks fields = .ok scope) {reference : String}
    (hpath : IsPath (trimmed reference)) :
    (IsAccess storedRoot (scope.resolveReference reference) ↔
        Stores steps blocks (headOf (trimmed reference))) ∧
      (IsAccess contextRoot (scope.resolveReference reference) ↔
        ¬Stores steps blocks (headOf (trimmed reference))) := by
  rw [resolveReference_of_isPath scope hpath, ← rootOf_build_iff hbuild]
  by_cases hroot : scope.rootOf (headOf (trimmed reference)) = storedRoot
  · rw [hroot]
    have haccess := member_append_isAccess storedRoot (headOf (trimmed reference))
      (accessesOf (trimmed reference))
    exact ⟨iff_of_true haccess rfl, iff_of_false (not_isAccess_contextRoot haccess) (by simp)⟩
  · rw [rootOf_eq_contextRoot_iff.mpr hroot]
    have haccess := member_append_isAccess contextRoot (headOf (trimmed reference))
      (accessesOf (trimmed reference))
    have hroots : contextRoot ≠ storedRoot := by decide
    exact ⟨iff_of_false (fun hstored => not_isAccess_contextRoot hstored haccess) hroots,
      iff_of_true haccess hroots⟩

/-- When the payloads of its enabled blocks can be read, a screen has one scope for each of them, in
which the block at that position is lowered; there a reference reads a stored result just when a
step or a block before the position stores it, and the context data in every other case. -/
theorem reference_reads_what_is_stored_before {screen : Screen} {options : Options}
    {blocks : List Block} (hblocks : enabledBlocks screen = .ok blocks)
    (hread : ∀ block ∈ blocks, ∃ names, block.storedNames = .ok names) :
    ∃ found, scopes options.steps options.fields blocks = .ok found ∧
      found.length = blocks.length ∧
      (∀ ledger plan after,
        (Lowering.screen screen options).run ledger = (.ok plan, after) →
          ∀ position block scope, blocks[position]? = some block →
            found[position]? = some scope →
              ∃ lowered, plan.blocks[position]? = some lowered ∧
                LoweredAt plan.decision.mode block
                  { isNative := options.isNative, object := screen.instanceName, scope, position }
                  lowered) ∧
      ∀ position scope, found[position]? = some scope →
        ∀ reference, IsPath (trimmed reference) →
          (IsAccess storedRoot (scope.resolveReference reference) ↔
              Stores options.steps (blocks.take position) (headOf (trimmed reference))) ∧
            (IsAccess contextRoot (scope.resolveReference reference) ↔
              ¬Stores options.steps (blocks.take position) (headOf (trimmed reference))) := by
  obtain ⟨found, hscopes⟩ := scopes_ok options.steps options.fields hread
  refine ⟨found, hscopes, scopes_length hscopes, ?_, ?_⟩
  · intro ledger plan after hrun
    obtain ⟨others, same, hothers, hsame, hlowered⟩ := screen_loweredAt hrun
    cases hblocks.symm.trans hothers
    cases hscopes.symm.trans hsame
    exact hlowered
  · intro position scope hscope reference hpath
    exact reference_isAccess_iff (build_of_scopes hscopes hscope) hpath

def totalCall : Block where
  type := BlockType.functionCall
  order := .zero false
  data := [("method", .text "readTotal"), ("storeAs", .text "total")]

def totalComparison : Block where
  type := BlockType.dataAssertion
  order := .finite false 1 0
  data := [("assertions", .list [.map [(.name "left", .text "\x7b\x7btotal\x7d\x7d")]])]

/-- The comparison is declared first and comes last. -/
def totalScreen : Screen where
  screenKey := "bookingDetails"
  blocks := [totalComparison, totalCall]

theorem enabledBlocks_totalScreen :
    enabledBlocks totalScreen = .ok [totalCall, totalComparison] := by
  have hlt : (Binary64.zero false).lt (.finite false 1 0) = true := by decide +kernel
  simp [enabledBlocks, Screen.effectiveBlocks, totalScreen, totalCall, totalComparison,
    Screen.byOrder, Screen.isLegacy, List.mergeSort, List.MergeSort.Internal.splitInTwo, hlt]

theorem totalScreen_reads_total :
    enabledBlocks totalScreen = .ok [totalCall, totalComparison] ∧
      (∀ block ∈ [totalCall, totalComparison], ∃ names, block.storedNames = .ok names) ∧
      ∃ found, scopes [] ["total"] [totalCall, totalComparison] = .ok found ∧
        (∀ scope, found[0]? = some scope →
          IsAccess contextRoot (scope.resolveReference "total")) ∧
        ∀ scope, found[1]? = some scope →
          IsAccess storedRoot (scope.resolveReference "total") := by
  have hread : ∀ block ∈ [totalCall, totalComparison],
      ∃ names, block.storedNames = .ok names := by
    simp only [List.forall_mem_cons]
    exact ⟨⟨_, rfl⟩, ⟨_, rfl⟩, by simp⟩
  have hpath : IsPath (trimmed "total") := by
    refine ⟨by decide, by decide, ?_⟩
    rintro c ⟨⟩
    rfl
  obtain ⟨found, hfound, -, -, hreads⟩ := @reference_reads_what_is_stored_before totalScreen
    { isNative := false, fields := ["total"] } _ enabledBlocks_totalScreen hread
  refine ⟨enabledBlocks_totalScreen, hread, found, hfound, fun scope hscope => ?_,
    fun scope hscope => ?_⟩
  · refine (hreads 0 scope hscope "total" hpath).2.mpr ?_
    rintro (⟨step, hstep, -⟩ | ⟨block, hblock, -⟩)
    · cases hstep
    · cases hblock
  · refine (hreads 1 scope hscope "total" hpath).1.mpr (.inr ⟨totalCall, ?_, ["total"], rfl, ?_⟩)
    · exact List.mem_singleton_self totalCall
    · decide

end Lowering

end ScreenFlow
