import ScreenFlow.Proofs.Lowering.Decision
import ScreenFlow.Proofs.Screen.Declared

/-!
The order of a plan.  The enabled blocks of a screen are arranged by their orders, and each is lowered
in the scope of its own position: a plan has one lowered block for each of them, in the same order.
-/

namespace ScreenFlow

namespace Lowering

open Effect

/-- Lowering the block at the place gives this result, whatever has been recorded before. -/
def LowersTo (mode : EmissionMode) (block : Block) (place : Place) (lowered : LoweredBlock) :
    Prop :=
  ∀ before, ∃ after, (Lowering.block mode block place).run before = (.ok lowered, after)

theorem LoweredAt.lowersTo {mode : EmissionMode} {block : Block} {place : Place}
    {lowered : LoweredBlock} (hlowered : LoweredAt mode block place lowered) :
    LowersTo mode block place lowered := by
  obtain ⟨before, after, hrun⟩ := hlowered
  exact fun other => ⟨_, Prod.ext ((run_block_fst ..).trans (resultOf_of_run hrun)) rfl⟩

theorem LowersTo.started {mode : EmissionMode} {block : Block} {place : Place}
    {lowered : LoweredBlock} (hlowers : LowersTo mode block place lowered) :
    ∃ base, start block = .ok base := by
  obtain ⟨after, hrun⟩ := hlowers {}
  exact (block_loweredFrom mode block place _ _ _ hrun).started

/-- Blocks that can be lowered one by one can be lowered in a row. -/
theorem run_blocksFrom_of_lowersTo {mode : EmissionMode} {isNative : Bool} {object : String}
    {position : Nat} {items : List (Block × Scope)} {lowered : List LoweredBlock}
    (hlength : lowered.length = items.length)
    (heach : ∀ index block scope, items[index]? = some (block, scope) →
      ∃ result, lowered[index]? = some result ∧
        LowersTo mode block { isNative, object, scope, position := position + index } result)
    (before : Ledger) :
    ∃ after, (blocksFrom mode isNative object position items).run before = (.ok lowered, after) := by
  induction items generalizing position lowered before with
  | nil =>
      rw [List.length_nil, List.length_eq_zero_iff] at hlength
      exact ⟨before, by rw [hlength]; rfl⟩
  | cons item rest ih =>
      cases lowered with
      | nil => cases hlength
      | cons first others =>
          obtain ⟨result, hresult, hlowers⟩ := heach 0 item.1 item.2 rfl
          cases hresult
          rw [Nat.add_zero] at hlowers
          obtain ⟨middle, hfirst⟩ := hlowers before
          have hothers : ∀ index block scope, rest[index]? = some (block, scope) →
              ∃ result, others[index]? = some result ∧
                LowersTo mode block
                  { isNative, object, scope, position := position + 1 + index } result := by
            intro index block scope hitem
            rw [Nat.add_right_comm]
            exact heach (index + 1) block scope hitem
          obtain ⟨after, hrest⟩ := ih (Nat.succ.inj hlength) hothers middle
          unfold Compile.run at hfirst hrest
          refine ⟨after, ?_⟩
          unfold blocksFrom Compile.run
          simp only [run_bind, hfirst, hrest, run_pure]

/-- The blocks lowered one by one, each in the scope that the blocks before it make. -/
structure LoweredInPlace (screen : Screen) (options : Options) (mode : EmissionMode)
    (blocks : List Block) (lowered : List LoweredBlock) : Prop where
  length : lowered.length = blocks.length
  each : ∀ position block, blocks[position]? = some block →
    ∃ scope result, Scope.build options.steps (blocks.take position) options.fields = .ok scope ∧
      lowered[position]? = some result ∧
      LowersTo mode block
        { isNative := options.isNative, object := screen.instanceName, scope, position } result

theorem run_blocksFrom_iff {screen : Screen} {options : Options} {mode : EmissionMode}
    {blocks : List Block} {lowered : List LoweredBlock} (before : Ledger) :
    (∃ found after, scopes options.steps options.fields blocks = .ok found ∧
      (blocksFrom mode options.isNative screen.instanceName 0 (blocks.zip found)).run before =
        (.ok lowered, after)) ↔
      LoweredInPlace screen options mode blocks lowered := by
  constructor
  · rintro ⟨found, after, hscopes, hrun⟩
    have hlength := (forall₂_of_zip (scopes_length hscopes)
      (blocksFrom_loweredFrom _ _ _ _ _ _ _ _ hrun)).length_eq
    refine ⟨hlength.symm, fun position block hblock => ?_⟩
    obtain ⟨scope, hscope⟩ := exists_scope_of_block hscopes hblock
    obtain ⟨result, hresult, hlowered⟩ :=
      blocksFrom_loweredAt hrun (List.getElem?_zip_eq_some.mpr ⟨hblock, hscope⟩)
    rw [Nat.zero_add] at hlowered
    exact ⟨scope, result, build_of_scopes hscopes hscope, hresult, hlowered.lowersTo⟩
  · intro hinPlace
    have hread : ∀ block ∈ blocks, ∃ names, block.storedNames = .ok names := by
      intro block hmem
      obtain ⟨position, hblock⟩ := List.mem_iff_getElem?.mp hmem
      obtain ⟨_, _, -, -, hlowers⟩ := hinPlace.each position block hblock
      obtain ⟨base, hstart⟩ := hlowers.started
      exact ⟨_, storedNames_of_start hstart⟩
    obtain ⟨found, hscopes⟩ := scopes_ok options.steps options.fields hread
    have hlength : lowered.length = (blocks.zip found).length := by
      rw [hinPlace.length, List.length_zip, scopes_length hscopes, Nat.min_self]
    obtain ⟨after, hrun⟩ := run_blocksFrom_of_lowersTo hlength (fun index block scope hitem => by
      obtain ⟨hblock, hscope⟩ := List.getElem?_zip_eq_some.mp hitem
      obtain ⟨own, result, hbuild, hresult, hlowers⟩ := hinPlace.each index block hblock
      cases hbuild.symm.trans (build_of_scopes hscopes hscope)
      rw [Nat.zero_add]
      exact ⟨result, hresult, hlowers⟩) before
    exact ⟨found, after, hscopes, hrun⟩

/-- A screen has a plan just when its enabled blocks, arranged by their orders, can be lowered in
place; these are then the blocks of the plan. -/
theorem screen_blocks_iff {screen : Screen} {effective : List Block}
    (heffective : screen.effectiveBlocks = .ok effective)
    (hnumbers : ∀ block ∈ effective, block.enabled = true → block.order ≠ .nan)
    (options : Options) (ledger : Ledger) (decision : ModeDecision) (lowered : List LoweredBlock) :
    (∃ plan after, (Lowering.screen screen options).run ledger = (.ok plan, after) ∧
      plan.decision = decision ∧ plan.blocks = lowered) ↔
      ∃ blocks, Screen.Arranged Block.order (effective.filter (·.enabled)) blocks ∧
        ModeDecision.select blocks screen.instanceName options.isNative options.forceRaw =
          .ok decision ∧
        LoweredInPlace screen options decision.mode blocks lowered := by
  have hone (blocks : List Block) : Screen.Arranged Block.order (effective.filter (·.enabled)) blocks ↔
      enabledBlocks screen = .ok blocks := by
    rw [Screen.arranged_iff, enabledBlocks_eq heffective, Except.ok.injEq, eq_comm]
    intro block hmem
    obtain ⟨hmem, hblock⟩ := List.mem_filter.mp hmem
    exact hnumbers block hmem hblock
  simp only [hone]
  constructor
  · rintro ⟨plan, after, hrun, rfl, rfl⟩
    obtain ⟨blocks, found, middle, hmade, -⟩ := exists_planned_of_run hrun
    exact ⟨blocks, hmade.enabled, hmade.decision,
      (run_blocksFrom_iff ledger).mp ⟨found, middle, hmade.scopes, hmade.lowered⟩⟩
  · rintro ⟨blocks, hblocks, hdecision, hinPlace⟩
    obtain ⟨found, middle, hscopes, hlower⟩ := (run_blocksFrom_iff ledger).mpr hinPlace
    obtain ⟨plan, hmade, hsame, hplan⟩ := exists_planned options hblocks hdecision hscopes hlower
    exact ⟨plan, _, hmade.run, hsame, hplan⟩

/-- When no order is NaN, the blocks of a plan are the enabled blocks of the screen in ascending order,
each lowered in place; and the screens of a platform are those declared for it in ascending order.
Equal orders come in the order of declaration. -/
theorem plans_and_platforms_in_order :
    (∀ (screen : Screen) (effective : List Block), screen.effectiveBlocks = .ok effective →
      (∀ block ∈ effective, block.enabled = true → block.order ≠ .nan) →
      ∀ (options : Options) (ledger : Ledger) (decision : ModeDecision)
        (lowered : List LoweredBlock),
        (∃ plan after, (Lowering.screen screen options).run ledger = (.ok plan, after) ∧
          plan.decision = decision ∧ plan.blocks = lowered) ↔
          ∃ blocks, Screen.Arranged Block.order (effective.filter (·.enabled)) blocks ∧
            ModeDecision.select blocks screen.instanceName options.isNative options.forceRaw =
              .ok decision ∧
            LoweredInPlace screen options decision.mode blocks lowered) ∧
    ∀ (mirrorsOn : List (String × Value)) (validationKey : String),
      (∀ value, Screen.PlatformOf mirrorsOn validationKey value →
        (∀ declared, Screen.Declared validationKey (value.entries?.getD []) declared →
          ∀ screen ∈ declared, screen.order ≠ .nan) →
        ∀ screens, Screen.ofPlatform (some mirrorsOn) validationKey = .ok screens ↔
          ∃ declared, Screen.Declared validationKey (value.entries?.getD []) declared ∧
            Screen.Arranged Screen.order declared screens) ∧
      ((∀ value, ¬Screen.PlatformOf mirrorsOn validationKey value) →
        Screen.ofPlatform (some mirrorsOn) validationKey = .ok []) := by
  constructor
  · intro screen effective heffective hnumbers options ledger decision lowered
    exact screen_blocks_iff heffective hnumbers options ledger decision lowered
  · intro mirrorsOn validationKey
    exact ⟨fun value hplatform hnumbers screens =>
        Screen.ofPlatform_eq_ok_iff hplatform hnumbers,
      fun hnone => Screen.ofPlatform_of_not_platformOf hnone⟩

def emptyCode (label : String) (order : Int) : Block where
  type := BlockType.customCode
  label := some label
  order := .ofInt order

/-- Two blocks of equal orders, one that comes first but is declared last, and one that is disabled. -/
def tiedScreen : Screen where
  blocks := [emptyCode "second" 1, { emptyCode "off" 0 with enabled := false },
    emptyCode "third" 1, emptyCode "first" 0]

def emptyLowered (label : String) (order : Int) : LoweredBlock where
  type := BlockType.customCode
  label := label
  order := .ofInt order
  lines := ["// Empty custom code block"]

/-- Two definitions of equal orders, one that comes first but is declared last, and a note. -/
def tiedPlatform : Entries :=
  [(.name "second", .map [(.name "order", .int 1)]),
    (.name "note", .text "no screen"),
    (.name "third", .list [.map [(.name "order", .int 1)], .null]),
    (.name "first", .map [])]

def keyedScreen (key : String) (order : Int) : Screen where
  screenKey := key
  order := .ofInt order

theorem tiedPlatform_declared :
    Screen.Declared "web" tiedPlatform
      [keyedScreen "second" 1, keyedScreen "third" 1, keyedScreen "first" 0] :=
  .read (.inl rfl) rfl (.skip (by simp [Screen.IsDefinition])
    (.read (.inr ⟨_, rfl⟩) rfl (.read (.inl rfl) rfl .nil)))

theorem tied_in_order :
    (∃ plan after, (Lowering.screen tiedScreen { isNative := false }).run {} = (.ok plan, after) ∧
      plan.decision = { mode := .structured } ∧
      plan.blocks = [emptyLowered "first" 0, emptyLowered "second" 1, emptyLowered "third" 1]) ∧
    Screen.ofPlatform (some [("UI", .map [(.name "Web", .map tiedPlatform)])]) "web" =
      .ok [keyedScreen "first" 0, keyedScreen "second" 1, keyedScreen "third" 1] := by
  have hbelow : (Binary64.ofInt 0).lt (.ofInt 1) = true := by decide +kernel
  have hequal : (Binary64.ofInt 1).lt (.ofInt 1) = false := by decide +kernel
  have hzero : Binary64.ofInt 0 ≠ .nan := by decide +kernel
  have hone : Binary64.ofInt 1 ≠ .nan := by decide +kernel
  constructor
  · refine (plans_and_platforms_in_order.1 tiedScreen tiedScreen.blocks rfl ?_ _ _ _ _).mpr
      ⟨[emptyCode "first" 0, emptyCode "second" 1, emptyCode "third" 1], ?_, rfl, rfl, ?_⟩
    · simp [tiedScreen, emptyCode, hzero, hone]
    · refine ⟨[(emptyCode "first" 0, 2), (emptyCode "second" 1, 0), (emptyCode "third" 1, 1)],
        ?_, rfl, ?_⟩
      · exact @List.perm_append_comm _ [_] [_, _]
      · simp [Screen.ComesBefore, emptyCode, hbelow, hequal]
    · intro position block hblock
      obtain _ | _ | _ | position := position
      all_goals cases hblock
      all_goals exact ⟨_, _, rfl, rfl, fun before => ⟨before, rfl⟩⟩
  · have hplatform : [(Key.name "Web", Value.map tiedPlatform)].find?
        (fun entry => lowerText entry.1.text == lowerText "web") =
          some (.name "Web", .map tiedPlatform) := rfl
    refine ((plans_and_platforms_in_order.2 _ "web").1 (.map tiedPlatform)
      ⟨_, rfl, .folded rfl hplatform⟩ ?_ _).mpr ⟨_, tiedPlatform_declared, ?_⟩
    · intro declared hdeclared
      have hsame := (Screen.mapM_definitions_eq_ok_iff.mpr hdeclared).symm.trans
        (Screen.mapM_definitions_eq_ok_iff.mpr tiedPlatform_declared)
      cases hsame
      simp [keyedScreen, hzero, hone]
    · refine ⟨[(keyedScreen "first" 0, 2), (keyedScreen "second" 1, 0), (keyedScreen "third" 1, 1)],
        ?_, rfl, ?_⟩
      · exact @List.perm_append_comm _ [_] [_, _]
      · simp [Screen.ComesBefore, keyedScreen, hbelow, hequal]

end Lowering

end ScreenFlow
