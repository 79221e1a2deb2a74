import ScreenFlow.Proofs.Lowering.Structured

/-!
The kind a block is lowered as, and the type it is read by.  Blocks are lowered alike whether their
type is written with a dash or with a low line.  The names they store, what they ask of the mode,
and their part in the summary are read by the spelling with a dash alone.
-/

namespace ScreenFlow

namespace Screen

/-- The tally after the checks of one block. -/
def Tally.addChecks (tally : Tally) (checks : UiChecks) : Tally :=
  { tally with
    visible := tally.visible ++ checks.visible
    hidden := tally.hidden ++ checks.hidden
    textChecks := tally.textChecks + checks.checks.text.length + checks.checks.contains.length }

def Tally.addCall (tally : Tally) : Tally :=
  { tally with calls := tally.calls + 1 }

theorem Tally.addChecks_eq_self_iff {checks : UiChecks} :
    (∀ tally : Tally, tally.addChecks checks = tally) ↔
      checks.visible = [] ∧ checks.hidden = [] ∧ checks.checks.isEmpty = true := by
  constructor
  · intro hsame
    have hnone := hsame {}
    simp only [addChecks, Tally.mk.injEq, List.nil_append, Nat.zero_add, Nat.add_eq_zero_iff,
      List.length_eq_zero_iff] at hnone
    obtain ⟨hvisible, hhidden, ⟨htext, hcontains⟩, -⟩ := hnone
    exact ⟨hvisible, hhidden, by simp [TextChecks.isEmpty, htext, hcontains]⟩
  · rintro ⟨hvisible, hhidden, hempty⟩ tally
    simp only [TextChecks.isEmpty, Bool.and_eq_true, List.isEmpty_iff] at hempty
    simp [addChecks, hvisible, hhidden, hempty.1, hempty.2]

end Screen

namespace Lowering

/-- The block is read as checks on elements: its names, by the mode, and in the summary. -/
structure ReadAsChecks (block : Block) : Prop where
  stored : block.storedNames =
    block.uiChecks.map fun checks => checks.assertions.filterMap FunctionAssertion.stored?
  mode : ModeDecision.hasFunctionAssertions block =
    block.uiChecks.map UiChecks.hasFunctionAssertions
  summary : ∀ tally : Screen.Tally,
    tally.add block = if block.enabled then block.uiChecks.map tally.addChecks else .ok tally

/-- The block is read as a call: its name, by the mode, and in the summary. -/
structure ReadAsCall (block : Block) : Prop where
  stored : block.storedNames = block.callData.map fun data => data.stored?.toList
  mode : ∀ own, ModeDecision.isExternalCall block own = block.callData.map fun data =>
    !ModeDecision.selfNames.contains data.objectName && data.objectName != own
  summary : ∀ tally : Screen.Tally,
    tally.add block = .ok (if block.enabled then tally.addCall else tally)

/-- The name that is read of a block of any other type. -/
def plainStored (block : Block) : Option String :=
  Block.filled (Value.orNull (block.data.lookup "storeAs")).string?

/-- Checks of which nothing would be read. -/
structure ReadsNothing (block : Block) (checks : UiChecks) : Prop where
  stored : plainStored block = none
  functions : checks.hasFunctionAssertions = false
  elements : block.enabled = true →
    checks.visible = [] ∧ checks.hidden = [] ∧ checks.checks.isEmpty = true

/-- A call on the own object that stores what any block would, in a block that is not counted. -/
structure ReadsAsPlain (block : Block) (data : CallData) : Prop where
  stored : data.stored? = plainStored block
  object : data.objectName ∈ ModeDecision.selfNames
  disabled : block.enabled = false

/-! Types. -/

/-- A word of a type, without dashes and low lines. -/
def isWord (word : List Char) : Bool :=
  word.all fun c => c != '-' && c != '_'

/-- A dash becomes a low line. -/
def lowLine (c : Char) : Char :=
  if c = '-' then '_' else c

theorem toList_replaceChar (text : String) :
    (replaceChar text '-' "_").toList = text.toList.map lowLine := by
  rw [replaceChar, String.toList_ofList, List.map_eq_flatMap]
  congr 1
  funext c
  unfold lowLine
  split <;> rfl

theorem lowLine_eq_iff (c : Char) : lowLine c = '_' ↔ c = '-' ∨ c = '_' := by
  unfold lowLine
  split <;> simp_all

theorem lowLine_of_ne {c : Char} (hdash : c ≠ '-') : lowLine c = c :=
  if_neg hdash

theorem map_lowLine_eq_iff {text word : List Char} (hword : isWord word = true) :
    text.map lowLine = word ↔ text = word := by
  simp only [isWord, List.all_eq_true, Bool.and_eq_true, bne_iff_ne] at hword
  have hmap (hdash : ∀ c ∈ text, c ≠ '-') : text.map lowLine = text :=
    (List.map_congr_left fun c hc => lowLine_of_ne (hdash c hc)).trans (List.map_id text)
  constructor
  · rintro rfl
    refine (hmap fun c hc heq => ?_).symm
    exact (hword _ (List.mem_map_of_mem hc)).2 ((lowLine_eq_iff c).mpr (.inl heq))
  · rintro rfl
    exact hmap fun c hc => (hword c hc).1

/-- A kind of two words is that of the types with a dash or a low line between them. -/
theorem kindOf_eq_iff {block : Block} (first second : String) (hfirst : isWord first.toList = true)
    (hsecond : isWord second.toList = true) :
    kindOf block = first ++ "_" ++ second ↔
      block.type = first ++ "-" ++ second ∨ block.type = first ++ "_" ++ second := by
  have hspelled (c : Char) : block.type = first ++ String.singleton c ++ second ↔
      block.type.toList = first.toList ++ c :: second.toList := by
    rw [← String.toList_inj]
    simp
  change _ ↔ block.type = first ++ String.singleton '-' ++ second ∨
    block.type = first ++ String.singleton '_' ++ second
  have hkind : kindOf block = first ++ "_" ++ second ↔
      block.type.toList.map lowLine = first.toList ++ '_' :: second.toList := by
    rw [kindOf, ← String.toList_inj, toList_replaceChar]
    simp
  rw [hspelled, hspelled, hkind, List.map_eq_append_iff]
  constructor
  · rintro ⟨before, after, htype, hbefore, hafter⟩
    obtain ⟨c, rest, rfl, hc, hrest⟩ := List.map_eq_cons_iff.mp hafter
    rw [htype, (map_lowLine_eq_iff hfirst).mp hbefore, (map_lowLine_eq_iff hsecond).mp hrest]
    exact ((lowLine_eq_iff c).mp hc).imp (fun heq => by rw [heq]) fun heq => by rw [heq]
  · intro htype
    obtain ⟨c, hc, htype⟩ :
        ∃ c, lowLine c = '_' ∧ block.type.toList = first.toList ++ c :: second.toList :=
      htype.elim (fun heq => ⟨'-', rfl, heq⟩) fun heq => ⟨'_', rfl, heq⟩
    refine ⟨_, _, htype, (map_lowLine_eq_iff hfirst).mpr rfl, ?_⟩
    rw [List.map_cons, hc, (map_lowLine_eq_iff hsecond).mpr rfl]

theorem kindOf_eq_ui_iff {block : Block} :
    kindOf block = "ui_assertion" ↔
      block.type = BlockType.uiAssertion ∨ block.type = "ui_assertion" :=
  kindOf_eq_iff "ui" "assertion" rfl rfl

theorem kindOf_eq_call_iff {block : Block} :
    kindOf block = "function_call" ↔
      block.type = BlockType.functionCall ∨ block.type = "function_call" :=
  kindOf_eq_iff "function" "call" rfl rfl

/-! Readers. -/

/-- Nothing but the plain name is read of a block of any other type. -/
structure ReadAsOther (block : Block) : Prop where
  stored : block.storedNames = .ok (plainStored block).toList
  functions : ModeDecision.hasFunctionAssertions block = .ok false
  external : ∀ own, ModeDecision.isExternalCall block own = .ok false
  summary : ∀ tally : Screen.Tally, tally.add block = .ok tally

theorem readAsOther_of_type {block : Block} (hui : block.type ≠ BlockType.uiAssertion)
    (hcall : block.type ≠ BlockType.functionCall) : ReadAsOther block := by
  refine ⟨?_, functions_of_type_ne hui, fun own => isExternalCall_of_type_ne own hcall,
    fun tally => ?_⟩
  · rw [Block.storedNames, if_neg hcall, if_neg hui]
    rfl
  · rw [Screen.Tally.add, if_neg hui, if_neg hcall]
    split <;> rfl

theorem readAsChecks_of_type {block : Block} (htype : block.type = BlockType.uiAssertion) :
    ReadAsChecks block := by
  have hother : block.type ≠ BlockType.functionCall := by rw [htype]; decide
  refine ⟨?_, ?_, fun tally => ?_⟩
  · rw [Block.storedNames, if_neg hother, if_pos htype]
    cases block.uiChecks <;> rfl
  · rw [ModeDecision.hasFunctionAssertions, if_pos htype]
    cases block.uiChecks <;> rfl
  · rw [Screen.Tally.add, if_pos htype]
    cases block.enabled with
    | false => rfl
    | true => cases block.uiChecks <;> rfl

theorem readAsCall_of_type {block : Block} (htype : block.type = BlockType.functionCall) :
    ReadAsCall block := by
  have hother : block.type ≠ BlockType.uiAssertion := by rw [htype]; decide
  refine ⟨?_, fun own => ?_, fun tally => ?_⟩
  · rw [Block.storedNames, if_pos htype]
    cases block.callData <;> rfl
  · rw [ModeDecision.isExternalCall, if_pos htype]
    cases block.callData <;> rfl
  · rw [Screen.Tally.add, if_neg hother, if_pos htype]
    cases block.enabled <;> rfl

theorem assertions_eq_nil {checks : UiChecks} (hnone : checks.hasFunctionAssertions = false) :
    checks.assertions = [] := by
  simp only [UiChecks.hasFunctionAssertions, Bool.or_eq_false_iff, Bool.not_eq_false',
    List.isEmpty_iff] at hnone
  exact hnone.1.1

section Other

variable {block : Block} (hother : ReadAsOther block)
include hother

theorem ReadAsOther.readAsChecks_iff :
    ReadAsChecks block ↔ ∃ checks, block.uiChecks = .ok checks ∧ ReadsNothing block checks := by
  constructor
  · rintro ⟨hstored, hmode, hsummary⟩
    rw [hother.stored] at hstored
    rw [hother.functions] at hmode
    simp only [hother.summary] at hsummary
    cases hchecks : block.uiChecks with
    | error failure =>
        rw [hchecks] at hmode
        cases hmode
    | ok checks =>
        simp only [hchecks, Except.map, Except.ok.injEq] at hstored hmode hsummary
        refine ⟨checks, rfl, ?_, hmode.symm, fun henabled => ?_⟩
        · rw [assertions_eq_nil hmode.symm] at hstored
          exact Option.toList_eq_nil_iff.mp hstored
        · refine Screen.Tally.addChecks_eq_self_iff.mp fun tally => ?_
          simpa [henabled, eq_comm] using hsummary tally
  · rintro ⟨checks, hchecks, hreads⟩
    refine ⟨?_, ?_, fun tally => ?_⟩
    · rw [hother.stored, hchecks, hreads.stored, Except.map, assertions_eq_nil hreads.functions]
      rfl
    · rw [hother.functions, hchecks, Except.map, hreads.functions]
    · rw [hother.summary, hchecks, Except.map]
      split
      · next henabled =>
          rw [Screen.Tally.addChecks_eq_self_iff.mpr (hreads.elements henabled)]
      · rfl

theorem ReadAsOther.readAsCall_iff :
    ReadAsCall block ↔ ∃ data, block.callData = .ok data ∧ ReadsAsPlain block data := by
  constructor
  · rintro ⟨hstored, hmode, hsummary⟩
    rw [hother.stored] at hstored
    simp only [hother.external] at hmode
    simp only [hother.summary] at hsummary
    cases hdata : block.callData with
    | error failure =>
        rw [hdata] at hstored
        cases hstored
    | ok data =>
        simp only [hdata, Except.map, Except.ok.injEq] at hstored hmode hsummary
        refine ⟨data, rfl, ?_, ?_, ?_⟩
        · simpa [eq_comm] using congrArg List.head? hstored
        · by_contra hself
          have hexternal := hmode ""
          simp [hself, ne_empty_of_not_self hself] at hexternal
        · have hcounted := hsummary {}
          cases henabled : block.enabled with
          | false => rfl
          | true => simp [henabled, Screen.Tally.addCall] at hcounted
  · rintro ⟨data, hdata, hreads⟩
    refine ⟨?_, fun own => ?_, fun tally => ?_⟩
    · rw [hother.stored, hdata, Except.map, hreads.stored]
    · rw [hother.external, hdata, Except.map, List.contains_eq_mem]
      simp [hreads.object]
    · rw [hother.summary, hreads.disabled]
      rfl

end Other

/-- A block of a type with a low line is lowered as one with a dash, and read as one of no known
type: it is read as what it is lowered as exactly when there is nothing that could be misread. -/
theorem read_as_lowered_iff (block : Block) :
    ((kindOf block = "ui_assertion" ↔
        block.type = BlockType.uiAssertion ∨ block.type = "ui_assertion") ∧
      (kindOf block = "ui_assertion" →
        (∀ mode place, Lowering.block mode block place = liftM (uiIn mode block place)) ∧
          (ReadAsChecks block ↔ block.type = BlockType.uiAssertion ∨
            ∃ checks, block.uiChecks = .ok checks ∧ ReadsNothing block checks))) ∧
    (kindOf block = "function_call" ↔
        block.type = BlockType.functionCall ∨ block.type = "function_call") ∧
      (kindOf block = "function_call" →
        (∀ mode place, Lowering.block mode block place = liftM (call block place)) ∧
          (ReadAsCall block ↔ block.type = BlockType.functionCall ∨
            ∃ data, block.callData = .ok data ∧ ReadsAsPlain block data)) := by
  refine ⟨⟨kindOf_eq_ui_iff, fun hkind => ⟨fun mode place => ?_, ?_⟩⟩,
    kindOf_eq_call_iff, fun hkind => ⟨fun mode place => ?_, ?_⟩⟩
  · simp only [block_eq, hkind, String.reduceEq, if_false, if_true]
  · by_cases htype : block.type = BlockType.uiAssertion
    · exact iff_of_true (readAsChecks_of_type htype) (.inl htype)
    · have hcall : block.type ≠ BlockType.functionCall := fun hcall => by
        rw [kindOf_eq_ui_iff, hcall] at hkind
        exact absurd hkind (by decide)
      rw [(readAsOther_of_type htype hcall).readAsChecks_iff, or_iff_right htype]
  · rw [block_eq, if_pos hkind]
  · by_cases htype : block.type = BlockType.functionCall
    · exact iff_of_true (readAsCall_of_type htype) (.inl htype)
    · have hui : block.type ≠ BlockType.uiAssertion := fun hui => by
        rw [kindOf_eq_call_iff, hui] at hkind
        exact absurd hkind (by decide)
      rw [(readAsOther_of_type hui htype).readAsCall_iff, or_iff_right htype]

/-- Checks on the result of a function, which is stored. -/
def totalChecks (type : String) : Block where
  type
  data := [
    ("visible", .list [.text "cart"]),
    ("assertions", .list [.map [
      (.name "fn", .text "getTotal"), (.name "storeAs", .text "total")]])]

def totalCallOf (type : String) : Block where
  type
  data := [("instance", .text "cart"), ("method", .text "readTotal"), ("store_as", .text "total")]

theorem dashed_read_as_lowered :
    ReadAsChecks (totalChecks "ui-assertion") ∧ ReadAsCall (totalCallOf "function-call") :=
  ⟨((read_as_lowered_iff (totalChecks "ui-assertion")).1.2 (by decide)).2.mpr (.inl rfl),
    ((read_as_lowered_iff (totalCallOf "function-call")).2.2 (by decide)).2.mpr (.inl rfl)⟩

/-- With a low line, the same blocks are lowered as before and misread. -/
theorem not_read_as_lowered :
    (¬ ∀ block, kindOf block = "ui_assertion" → ReadAsChecks block) ∧
      ¬ ∀ block, kindOf block = "function_call" → ReadAsCall block := by
  refine ⟨fun hall => ?_, fun hall => ?_⟩
  · have hread := hall (totalChecks "ui_assertion") (by decide)
    cases hread.stored
  · have hread := hall (totalCallOf "function_call") (by decide)
    cases hread.stored

end Lowering

end ScreenFlow
