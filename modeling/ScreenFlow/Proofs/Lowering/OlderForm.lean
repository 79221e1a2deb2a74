import ScreenFlow.Proofs.Lowering.InOrder
import ScreenFlow.Proofs.Lowering.Reported
import ScreenFlow.Proofs.Number.Nearest
import ScreenFlow.Proofs.Schema.Values
import ScreenFlow.Proofs.Screen.Respelled

/-!
Screens in the older form.  Their checks and functions are written out as the data of blocks, which is
read once more when the blocks are lowered: nothing is lost on the way, and the blocks come in the order
of the declaration.
-/

namespace ScreenFlow

namespace Schema

open Reading

theorem isName_of_onlyNames {entries : Entries} (honly : onlyNames entries = .value ())
    {entry : Key × Value} (hmem : entry ∈ entries) : entry.1.isName = true := by
  have hall := accepted_onlyNames entries
  rw [honly] at hall
  exact List.all_eq_true.mp hall.symm entry hmem

theorem onlyNames_of_isName {entries : Entries}
    (hall : ∀ entry ∈ entries, entry.1.isName = true) : onlyNames entries = .value () := by
  have hnone : entries.filter (fun entry => !entry.1.isName) = [] := by
    rw [List.filter_eq_nil_iff]
    intro entry hmem
    rw [hall entry hmem]
    decide
  rw [onlyNames, hnone]

/-- An entry under the name that an editor writes is not spare. -/
theorem ne_editor_of_mem_spare {entries : Entries} {names : List Name} {entry : Key × Value}
    (hmem : entry ∈ spare entries names) {name : Name} (hname : name ∈ names) :
    entry.1 ≠ .name name.editor := by
  intro hkey
  obtain ⟨hentry, hspare⟩ := List.mem_filter.mp hmem
  have hgiven : ∃ value, entries.get? name.editor = some value := by
    rw [← Option.ne_none_iff_exists', Ne, get?_eq_none_iff]
    exact fun hnone => hnone entry hentry hkey
  obtain ⟨value, hvalue⟩ := hgiven
  have htaken : name.editor ∈ names.filterMap fun name => (given? entries name).map (·.1) := by
    refine List.mem_filterMap.mpr ⟨name, hname, ?_⟩
    rw [given?, hvalue]
    rfl
  rw [hkey] at hspare
  simp [Key.isName, Key.text, htaken] at hspare

end Schema

/-- The entries go with written fields of these names: none of them has such a name. -/
structure Entries.GoWith (rest : Entries) (names : List Schema.Name) : Prop where
  isName : ∀ entry ∈ rest, entry.1.isName = true
  ne_editor : ∀ entry ∈ rest, ∀ name ∈ names, entry.1 ≠ .name name.editor

namespace Entries.GoWith

open Schema

variable {rest : Entries} {names : List Schema.Name}

theorem nil (names : List Schema.Name) : GoWith [] names :=
  ⟨List.forall_mem_nil _, List.forall_mem_nil _⟩

theorem spare {entries : Entries} (honly : onlyNames entries = .value ())
    (names : List Schema.Name) : GoWith (Schema.spare entries names) names where
  isName _ hmem := isName_of_onlyNames honly (List.mem_filter.mp hmem).1
  ne_editor _ hmem _ hname := ne_editor_of_mem_spare hmem hname

/-- The fields as they are written, and the other entries behind them. -/
def written (fields : List (Schema.Name × Value)) (rest : Entries) : Entries :=
  fields.map (fun field => (Key.name field.1.editor, field.2)) ++ rest

theorem onlyNames_written (fields : List (Schema.Name × Value))
    (hrest : rest.GoWith (fields.map (·.1))) : onlyNames (written fields rest) = .value () := by
  apply onlyNames_of_isName
  intro entry hmem
  rcases List.mem_append.mp hmem with hfield | hmem
  · obtain ⟨field, -, rfl⟩ := List.mem_map.mp hfield
    rfl
  · exact hrest.isName entry hmem

theorem given?_written {fields : List (Schema.Name × Value)} {name : Schema.Name}
    (hname : name ∈ fields.map (·.1)) (rest : Entries) :
    (given? (written fields rest) name).map (·.1) = some name.editor := by
  have hgiven : ∃ value, (written fields rest).get? name.editor = some value := by
    rw [← Option.ne_none_iff_exists', Ne, get?_eq_none_iff]
    intro hnone
    obtain ⟨field, hmem, rfl⟩ := List.mem_map.mp hname
    exact hnone _ (List.mem_append_left _ (List.mem_map_of_mem hmem)) rfl
  obtain ⟨value, hvalue⟩ := hgiven
  rw [given?, hvalue]
  rfl

theorem spare_written (fields : List (Schema.Name × Value))
    (hrest : rest.GoWith (fields.map (·.1))) :
    Schema.spare (written fields rest) (fields.map (·.1)) = rest := by
  have hgiven : ∀ name ∈ fields.map (·.1),
      (given? (written fields rest) name).map (·.1) = (some ∘ Name.editor) name :=
    fun _ hname => given?_written hname rest
  unfold Schema.spare
  rw [List.filterMap_congr hgiven, List.filterMap_eq_map]
  dsimp only
  rw [written, List.filter_append, List.filter_eq_nil_iff.mpr, List.nil_append,
    List.filter_eq_self.mpr]
  · intro entry hmem
    have hother : ((fields.map (·.1)).map Name.editor).contains entry.1.text = false := by
      rw [List.contains_eq_mem, decide_eq_false_iff_not]
      intro htaken
      obtain ⟨name, hname, htext⟩ := List.mem_map.mp htaken
      apply hrest.ne_editor entry hmem name hname
      have hkey := hrest.isName entry hmem
      obtain ⟨key, value⟩ := entry
      cases key with
      | name text => rw [htext]; rfl
      | other written => cases hkey
    rw [hother, Bool.and_false]
    rfl
  · intro entry hmem
    obtain ⟨field, hfield, rfl⟩ := List.mem_map.mp hmem
    have htaken : ((fields.map (·.1)).map Name.editor).contains field.1.editor = true := by
      rw [List.contains_eq_mem, decide_eq_true_eq]
      exact List.mem_map_of_mem (List.mem_map_of_mem hfield)
    simp only [Key.isName, Key.text, htaken]
    decide

end Entries.GoWith

/-! Written and read. -/

namespace Schema

theorem listOrEmpty_any_list (items : List Value) :
    listOrEmpty any (.list items) = .value items := by
  apply Reading.each_eq_value_iff.mpr
  exact List.forall₂_same.mpr fun _ _ => rfl

theorem namedValues_namedMap (pairs : List (String × Value)) :
    namedValues (TextChecks.mapOrEmpty (TextChecks.namedMap pairs)) = .value pairs :=
  namedValues_eq_value_iff.mpr rfl

end Schema

theorem UiChecks.names_texts (items : List String) : names (Screen.texts items) = .value items := by
  apply Reading.each_eq_value_iff.mpr
  exact List.forall₂_map_left_iff.mpr (List.forall₂_same.mpr fun _ _ => rfl)

namespace TextChecks

def fieldNames : List Schema.Name := [.same "text", .same "contains"]

theorem spare_goWith {value : Value} {checks : TextChecks} (hread : read value = .value checks) :
    checks.spare.GoWith fieldNames := by
  obtain ⟨entries, -, hfields⟩ := Schema.record_eq_value_iff.mp hread
  obtain ⟨hfields, _, honly⟩ := Reading.seqLeft_eq_value_iff.mp hfields
  obtain ⟨withText, htext, contains, -, hchecks⟩ := Reading.seq_eq_value_iff.mp hfields
  obtain ⟨text, -, rfl⟩ := Reading.functor_map_eq_value_iff.mp htext
  rw [← hchecks]
  exact .spare honly fieldNames

theorem read_toValue {checks : TextChecks} (hspare : checks.spare.GoWith fieldNames) :
    read checks.toValue = .value checks := by
  let fields : List (Schema.Name × Value) :=
    [(.same "text", namedMap checks.text), (.same "contains", namedMap checks.contains)]
  have htext : Schema.optional (Entries.GoWith.written fields checks.spare) (.same "text") []
      (fun value => Schema.namedValues (mapOrEmpty value)) = .value checks.text :=
    Schema.optional_same_eq_value_iff.mpr
      (.inr ⟨_, rfl, Schema.namedValues_namedMap checks.text⟩)
  have hcontains : Schema.optional (Entries.GoWith.written fields checks.spare)
      (.same "contains") [] (fun value => Schema.namedValues (mapOrEmpty value)) =
        .value checks.contains :=
    Schema.optional_same_eq_value_iff.mpr
      (.inr ⟨_, rfl, Schema.namedValues_namedMap checks.contains⟩)
  have hkept : Schema.spare (Entries.GoWith.written fields checks.spare) fieldNames =
      checks.spare := Entries.GoWith.spare_written fields hspare
  apply Schema.record_eq_value_iff.mpr
  refine ⟨Entries.GoWith.written fields checks.spare, rfl, ?_⟩
  apply Reading.seqLeft_eq_value_iff.mpr
  refine ⟨?_, (), Entries.GoWith.onlyNames_written fields hspare⟩
  apply Reading.seq_eq_value_iff.mpr
  refine ⟨_, Reading.functor_map_eq_value_iff.mpr ⟨_, htext, rfl⟩, _, hcontains, ?_⟩
  change { checks with spare := Schema.spare _ fieldNames } = checks
  rw [hkept]

end TextChecks

namespace FunctionAssertion

/-- The text is not taken for a value that could not be computed. -/
def IsKept (text : Option String) : Prop :=
  ∀ kept, text = some kept → (Placeholder.ofMarker? kept).isSome = false

/-- What holds of an assertion that has been read. -/
structure IsRead (assertion : FunctionAssertion) : Prop where
  expect : IsKept assertion.expect
  storeAs : IsKept assertion.storeAs
  spare : assertion.spare.GoWith fieldNames

theorem isKept_of_stringOrNone {value : Value} {text : Option String}
    (hread : Schema.stringOrNone value = .value text) : IsKept text := by
  rintro kept rfl
  obtain ⟨htext, hkept⟩ := Schema.stringOrNone_eq_some_iff.mp hread
  rw [Value.isPlaceholder, htext] at hkept
  exact hkept

theorem isKept_of_optional {entries : Entries} {name : Schema.Name} {text : Option String}
    (hread : Schema.optional entries name none Schema.stringOrNone = .value text) :
    IsKept text := by
  rcases Schema.optional_eq_value_iff.mp hread with ⟨-, rfl⟩ | ⟨given, -, hread⟩
  · rintro kept ⟨⟩
  · exact isKept_of_stringOrNone hread

theorem stringOrNone_textOrNull {text : Option String} (hkept : IsKept text) :
    Schema.stringOrNone (textOrNull text) = .value text := by
  cases text with
  | none => rfl
  | some text => exact Schema.stringOrNone_eq_some_iff.mpr ⟨rfl, hkept text rfl⟩

theorem isRead_of_read {value : Value} {assertion : FunctionAssertion}
    (hread : read value = .value assertion) : assertion.IsRead := by
  obtain ⟨entries, -, hfields⟩ := Schema.record_eq_value_iff.mp hread
  obtain ⟨hfields, _, honly⟩ := Reading.seqLeft_eq_value_iff.mp hfields
  obtain ⟨withArgs, hargs, storeAs, hstoreAs, hassertion⟩ := Reading.seq_eq_value_iff.mp hfields
  obtain ⟨withValue, hvalue, args, -, rfl⟩ := Reading.seq_eq_value_iff.mp hargs
  obtain ⟨withExpect, hexpected, result, -, rfl⟩ := Reading.seq_eq_value_iff.mp hvalue
  obtain ⟨withFunction, hfunction, expect, hexpect, rfl⟩ := Reading.seq_eq_value_iff.mp hexpected
  obtain ⟨function, -, rfl⟩ := Reading.functor_map_eq_value_iff.mp hfunction
  rw [← hassertion]
  exact ⟨isKept_of_optional hexpect, isKept_of_optional hstoreAs, .spare honly fieldNames⟩

theorem read_toValue {assertion : FunctionAssertion} (hassertion : assertion.IsRead) :
    read assertion.toValue = .value assertion := by
  let fields : List (Schema.Name × Value) := [
    (.same "fn", .text assertion.function),
    (.same "expect", textOrNull assertion.expect),
    (.same "value", assertion.value),
    (.same "args", .list assertion.args),
    (⟨"storeAs", "store_as"⟩, textOrNull assertion.storeAs)]
  let entries := Entries.GoWith.written fields assertion.spare
  have hfunction : Schema.optional entries (.same "fn") "" stringOrEmpty =
      .value assertion.function :=
    Schema.optional_same_eq_value_iff.mpr (.inr ⟨_, rfl, rfl⟩)
  have hexpect : Schema.optional entries (.same "expect") none Schema.stringOrNone =
      .value assertion.expect :=
    Schema.optional_same_eq_value_iff.mpr
      (.inr ⟨_, rfl, stringOrNone_textOrNull hassertion.expect⟩)
  have hvalue : Schema.optional entries (.same "value") .null Schema.any =
      .value assertion.value :=
    Schema.optional_same_eq_value_iff.mpr (.inr ⟨_, rfl, rfl⟩)
  have hargs : Schema.optional entries (.same "args") [] (Schema.listOrEmpty Schema.any) =
      .value assertion.args :=
    Schema.optional_same_eq_value_iff.mpr
      (.inr ⟨_, rfl, Schema.listOrEmpty_any_list assertion.args⟩)
  have hstoreAs : Schema.optional entries ⟨"storeAs", "store_as"⟩ none Schema.stringOrNone =
      .value assertion.storeAs :=
    Schema.optional_eq_value_iff.mpr
      (.inr ⟨("storeAs", _), rfl, stringOrNone_textOrNull hassertion.storeAs⟩)
  have hkept : Schema.spare entries fieldNames = assertion.spare :=
    Entries.GoWith.spare_written fields hassertion.spare
  apply Schema.record_eq_value_iff.mpr
  refine ⟨entries, rfl, ?_⟩
  apply Reading.seqLeft_eq_value_iff.mpr
  refine ⟨?_, (), Entries.GoWith.onlyNames_written fields hassertion.spare⟩
  simp only [hfunction, hexpect, hvalue, hargs, hstoreAs, hkept]
  rfl

end FunctionAssertion

namespace Screen

theorem recordsOnly_assertions {assertions : List FunctionAssertion}
    (hread : ∀ assertion ∈ assertions, assertion.IsRead) :
    Schema.recordsOnly FunctionAssertion.read
      (.list (assertions.map FunctionAssertion.toValue)) = .value assertions := by
  have hmaps : (Value.list (assertions.map FunctionAssertion.toValue)).mapsOnly =
      assertions.map FunctionAssertion.toValue := by
    apply List.filter_eq_self.mpr
    intro item hmem
    obtain ⟨assertion, -, rfl⟩ := List.mem_map.mp hmem
    rfl
  rw [Schema.recordsOnly, hmaps]
  apply Reading.each_eq_value_iff.mpr
  rw [List.forall₂_map_left_iff, List.forall₂_same]
  intro assertion hmem
  exact FunctionAssertion.read_toValue (hread assertion hmem)

/-- What the checks of a screen have of being read. -/
theorem checks_of_read {value : Value} {screen : Screen} (hread : read value = .value screen) :
    screen.checks.spare.GoWith TextChecks.fieldNames ∧
      ∀ assertion ∈ screen.assertions, assertion.IsRead := by
  simp only [read, Schema.record_eq_value_iff, Reading.seqLeft_eq_value_iff,
    Reading.seq_eq_value_iff, Reading.functor_map_eq_value_iff] at hread
  obtain ⟨entries, rfl, ⟨_, ⟨_, ⟨_, ⟨_, ⟨_, ⟨_, ⟨_, ⟨_, ⟨_, ⟨_, ⟨_, ⟨_, ⟨_, ⟨_,
    ⟨key, -, rfl⟩, order, -, rfl⟩, navigation, -, rfl⟩, blocks, -, rfl⟩, object, -, rfl⟩,
    path, -, rfl⟩, name, -, rfl⟩, description, -, rfl⟩, visible, -, rfl⟩, hidden, -, rfl⟩,
    checks, hchecks, rfl⟩, truthy, -, rfl⟩, falsy, -, rfl⟩, assertions, hassertions, rfl⟩,
    functions, -, rfl⟩, -⟩ := hread
  constructor
  · rcases Schema.optional_eq_value_iff.mp hchecks with ⟨-, rfl⟩ | ⟨given, -, hread⟩
    · exact .nil _
    · exact TextChecks.spare_goWith hread
  · rcases Schema.optional_eq_value_iff.mp hassertions with ⟨-, rfl⟩ | ⟨given, -, hread⟩
    · exact List.forall_mem_nil _
    · intro assertion hmem
      obtain ⟨item, -, hitem⟩ := exists_left_of_forall₂ (Reading.each_eq_value_iff.mp hread) hmem
      exact FunctionAssertion.isRead_of_read hitem

/-- What the checks of a screen are as the data of a block. -/
def uiChecks (screen : Screen) : UiChecks where
  visible := screen.visible
  hidden := screen.hidden
  checks := screen.checks
  truthy := screen.truthy
  falsy := screen.falsy
  assertions := screen.assertions

theorem uiChecks_checksBlock {screen : Screen}
    (hspare : screen.checks.spare.GoWith TextChecks.fieldNames)
    (hassertions : ∀ assertion ∈ screen.assertions, assertion.IsRead) :
    screen.checksBlock.uiChecks = .ok screen.uiChecks := by
  let entries : Entries := [
    (.name "visible", texts screen.visible),
    (.name "hidden", texts screen.hidden),
    (.name "checks", screen.checks.toValue),
    (.name "truthy", texts screen.truthy),
    (.name "falsy", texts screen.falsy),
    (.name "assertions", .list (screen.assertions.map FunctionAssertion.toValue))]
  have hnames (field : String) {items : List String}
      (hget : entries.get? field = some (texts items)) :
      Schema.optional entries (.same field) [] UiChecks.names = .value items :=
    Schema.optional_same_eq_value_iff.mpr (.inr ⟨_, hget, UiChecks.names_texts items⟩)
  have hvisible := hnames "visible" rfl
  have hhidden := hnames "hidden" rfl
  have htruthy := hnames "truthy" rfl
  have hfalsy := hnames "falsy" rfl
  have hchecks : Schema.optional entries (.same "checks") {} TextChecks.read =
      .value screen.checks :=
    Schema.optional_same_eq_value_iff.mpr (.inr ⟨_, rfl, TextChecks.read_toValue hspare⟩)
  have hitems : Schema.optional entries (.same "assertions") []
      (Schema.recordsOnly FunctionAssertion.read) = .value screen.assertions :=
    Schema.optional_same_eq_value_iff.mpr (.inr ⟨_, rfl, recordsOnly_assertions hassertions⟩)
  have hread : UiChecks.read screen.checksBlock.dataValue = .value screen.uiChecks := by
    apply Schema.record_eq_value_iff.mpr
    refine ⟨entries, rfl, ?_⟩
    simp only [hvisible, hhidden, hchecks, htruthy, hfalsy, hitems]
    rfl
  rw [Block.uiChecks, Block.payload, hread]

/-- The parameters that a function declares. -/
def parameters (spec : Value) : Entries :=
  (((spec.entries?.getD []).get? "parameters").bind Value.entries?).getD []

/-- The block calls the function on the screen's own object, with the values of its parameters, and
stores what the function is to store. -/
structure Calls (screen : Screen) (function : String × Value) (block : Block) : Prop where
  type : block.type = BlockType.functionCall
  object : block.data.lookup "instance" = some (.text screen.instanceName)
  method : block.data.lookup "method" = some (.text function.1)
  args : block.data.lookup "args" = some (.list ((parameters function.2).map (·.2)))
  storeAs : block.data.lookup "storeAs" =
    some (.orNull ((function.2.entries?.getD []).get? "storeAs"))

theorem parameterValues_eq (spec : Value) :
    parameterValues (.orNull (Entries.get? (spec.entries?.getD []) "parameters")) =
      (parameters spec).map (·.2) := by
  unfold parameters
  cases Entries.get? (spec.entries?.getD []) "parameters" with
  | none => rfl
  | some parameters => cases parameters <;> rfl

theorem calls_of_functionBlock {screen : Screen} {position : Nat} {method : String} {spec : Value}
    {block : Block} (hblock : screen.functionBlock position method spec = .ok block) :
    screen.Calls (method, spec) block ∧ block.order = .ofInt position ∧ block.enabled = true := by
  unfold functionBlock at hblock
  dsimp only at hblock
  split at hblock
  · cases hblock
  · cases hblock
    refine ⟨⟨rfl, rfl, rfl, ?_, rfl⟩, rfl, rfl⟩
    rw [← parameterValues_eq]
    rfl

theorem calls_of_functionBlocks {screen : Screen} {position : Nat}
    {functions : List (String × Value)} {blocks : List Block}
    (hblocks : screen.functionBlocks position functions = .ok blocks) :
    List.Forall₂ screen.Calls functions blocks ∧
      (∀ block ∈ blocks, block.enabled = true ∧ ∃ place, position ≤ place ∧
        block.order = .ofInt (place : Nat)) ∧
      blocks.Pairwise fun first second => first.order.AtMost second.order := by
  induction functions generalizing position blocks with
  | nil =>
      cases hblocks
      exact ⟨.nil, List.forall_mem_nil _, .nil⟩
  | cons function rest ih =>
      obtain ⟨first, hfirst, hblocks⟩ := exists_of_bind_eq_ok hblocks
      obtain ⟨others, hothers, hblocks⟩ := exists_of_bind_eq_ok hblocks
      cases hblocks
      obtain ⟨hcalls, horder, henabled⟩ := calls_of_functionBlock hfirst
      obtain ⟨hall, hplaces, hascending⟩ := ih hothers
      refine ⟨.cons hcalls hall, List.forall_mem_cons.mpr ⟨⟨henabled, position, le_rfl, horder⟩,
        ?_⟩, .cons ?_ hascending⟩
      · intro block hmem
        obtain ⟨hon, place, hplace, hnumber⟩ := hplaces block hmem
        exact ⟨hon, place, by omega, hnumber⟩
      · intro block hmem
        obtain ⟨-, place, hplace, hnumber⟩ := hplaces block hmem
        rw [horder, hnumber]
        exact Binary64.ofInt_atMost (by omega)

theorem byOrder_eq_self {α : Type} {order : α → Binary64} {items : List α}
    (hnumbers : ∀ item ∈ items, order item ≠ .nan)
    (hascending : items.Pairwise fun first second => (order first).AtMost (order second)) :
    byOrder order items = items := by
  rw [byOrder_eq_mergeSort hnumbers]
  apply List.mergeSort_of_pairwise
  exact hascending.imp fun hle => decide_eq_true hle

section OlderForm

variable {value : Value} {screen : Screen} {blocks : List Block}
  (hlegacy : screen.isLegacy = true) (hblocks : screen.effectiveBlocks = .ok blocks)
include hlegacy hblocks

theorem exists_of_effectiveBlocks :
    ∃ calls, blocks = screen.checksBlock :: calls ∧
      screen.functionBlocks 1 screen.functions = .ok calls := by
  rw [effectiveBlocks, if_pos hlegacy] at hblocks
  obtain ⟨calls, hcalls, hall⟩ := exists_of_bind_eq_ok hblocks
  cases hall
  exact ⟨calls, rfl, hcalls⟩

/-- The blocks are enabled, and have been given ascending orders. -/
theorem arranged_effectiveBlocks :
    (∀ block ∈ blocks, block.enabled = true ∧ block.order ≠ .nan) ∧
      byOrder Block.order blocks = blocks := by
  obtain ⟨calls, rfl, hcalls⟩ := exists_of_effectiveBlocks hlegacy hblocks
  obtain ⟨-, hplaces, hascending⟩ := calls_of_functionBlocks hcalls
  have hall : ∀ block ∈ screen.checksBlock :: calls, block.enabled = true ∧
      ∃ place : Nat, block.order = .ofInt place := by
    refine List.forall_mem_cons.mpr ⟨⟨rfl, 0, rfl⟩, ?_⟩
    intro block hmem
    obtain ⟨hon, place, -, horder⟩ := hplaces block hmem
    exact ⟨hon, place, horder⟩
  have hnumbers : ∀ block ∈ screen.checksBlock :: calls, block.order ≠ .nan := by
    intro block hmem
    obtain ⟨-, place, horder⟩ := hall block hmem
    rw [horder]
    exact Binary64.ofInt_ne_nan place
  refine ⟨fun block hmem => ⟨(hall block hmem).1, hnumbers block hmem⟩, ?_⟩
  apply byOrder_eq_self hnumbers
  refine .cons ?_ hascending
  intro block hmem
  obtain ⟨-, place, -, horder⟩ := hplaces block hmem
  rw [horder]
  exact Binary64.ofInt_atMost (Nat.zero_le place)

end OlderForm

end Screen

namespace Lowering

/-- A screen in the older form is lowered as a block with all its checks, and then a call for each of
its functions, in the order of declaration. -/
theorem olderForm_lowered {value : Value} {screen : Screen} {blocks : List Block}
    (hread : Screen.read value = .value screen) (hlegacy : screen.isLegacy = true)
    (hblocks : screen.effectiveBlocks = .ok blocks) :
    (∃ first calls, blocks = first :: calls ∧ first.type = BlockType.uiAssertion ∧
      first.uiChecks = .ok screen.uiChecks ∧
      List.Forall₂ screen.Calls screen.functions calls) ∧
    ∀ (options : Options) (ledger : Ledger) (decision : ModeDecision)
      (lowered : List LoweredBlock),
      (∃ plan after, (Lowering.screen screen options).run ledger = (.ok plan, after) ∧
        plan.decision = decision ∧ plan.blocks = lowered) ↔
        ModeDecision.select blocks screen.instanceName options.isNative options.forceRaw =
          .ok decision ∧
        LoweredInPlace screen options decision.mode blocks lowered := by
  obtain ⟨hspare, hassertions⟩ := Screen.checks_of_read hread
  obtain ⟨hall, hsorted⟩ := Screen.arranged_effectiveBlocks hlegacy hblocks
  constructor
  · obtain ⟨calls, hcut, hcalls⟩ := Screen.exists_of_effectiveBlocks hlegacy hblocks
    exact ⟨screen.checksBlock, calls, hcut, rfl, Screen.uiChecks_checksBlock hspare hassertions,
      (Screen.calls_of_functionBlocks hcalls).1⟩
  · intro options ledger decision lowered
    have henabled : blocks.filter (·.enabled) = blocks :=
      List.filter_eq_self.mpr fun block hmem => (hall block hmem).1
    rw [screen_blocks_iff hblocks fun block hmem _ => (hall block hmem).2, henabled]
    constructor
    · rintro ⟨arranged, harranged, hdecision, hplaced⟩
      rw [Screen.arranged_iff fun block hmem => (hall block hmem).2, hsorted] at harranged
      rw [harranged] at hdecision hplaced
      exact ⟨hdecision, hplaced⟩
    · rintro ⟨hdecision, hplaced⟩
      refine ⟨blocks, ?_, hdecision, hplaced⟩
      rw [Screen.arranged_iff fun block hmem => (hall block hmem).2, hsorted]

/-- A screen in the older form, with one check of each sort and a call with two parameters. -/
def olderCart : Value := .map [
  (.name "screenKey", .text "cart"),
  (.name "visible", .list [.text "title", .text "rows[2]"]),
  (.name "checks", .map [(.name "text", .map [(.name "title", .text "Basket")])]),
  (.name "assertions", .list [.map [(.name "fn", .text "getTotal"), (.name "value", .int 3),
    (.name "store_as", .text "total")]]),
  (.name "functions", .map [(.name "pay", .map [
    (.name "parameters", .map [(.name "amount", .int 3), (.name "to", .text "shop")]),
    (.name "storeAs", .text "receipt")])])]

def olderCartScreen : Screen where
  screenKey := "cart"
  visible := ["title", "rows[2]"]
  checks := { text := [("title", .text "Basket")] }
  assertions := [{ function := "getTotal", value := .int 3, storeAs := some "total" }]
  functions := [("pay", .map [
    (.name "parameters", .map [(.name "amount", .int 3), (.name "to", .text "shop")]),
    (.name "storeAs", .text "receipt")])]

theorem olderCart_lowered :
    Screen.read olderCart = .value olderCartScreen ∧ olderCartScreen.isLegacy = true ∧
      ∃ blocks, olderCartScreen.effectiveBlocks = .ok blocks ∧
        ∃ first calls, blocks = first :: calls ∧ first.type = BlockType.uiAssertion ∧
          first.uiChecks = .ok olderCartScreen.uiChecks ∧
          List.Forall₂ olderCartScreen.Calls olderCartScreen.functions calls := by
  have hread : Screen.read olderCart = .value olderCartScreen := rfl
  have hblocks : ∃ blocks, olderCartScreen.effectiveBlocks = .ok blocks := ⟨_, rfl⟩
  obtain ⟨blocks, hblocks⟩ := hblocks
  exact ⟨hread, rfl, blocks, hblocks, (olderForm_lowered hread rfl hblocks).1⟩

end Lowering

end ScreenFlow
