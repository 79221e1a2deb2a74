import ScreenFlow.Proofs.Lowering.ReadAlike
import ScreenFlow.Proofs.Screen.Payload
import ScreenFlow.Proofs.Screen.Respelled

/-!
Plans of screens whose fields are given under other names.  Wherever the schema reads a field, the
name it is given under makes no difference.  At three places the name that the editor writes is
looked for in the data itself; screens on which these agree have the same plans.
-/

namespace ScreenFlow

open Schema Reading

namespace Block

variable {block other : Block}

theorem payload_sameResults {α : Type} {title : String} {read : Value → Reading α}
    {data otherData : Value} (hread : Alike Eq (read data) (read otherData)) :
    SameResults (block.payload title read data) (other.payload title read otherData) :=
  .of_iff fun result => payload_eq_ok_iff.trans
    ((hread.value_iff result).trans payload_eq_ok_iff.symm)

end Block

section

variable {block other : Block} (hread : BlockRead block other)
include hread

theorem BlockRead.rel_lookup {text : String} (htext : IsOther callNames text) :
    Option.Rel (Within [("assertions", InItems AssertionRespelled)] (.name text))
      (block.data.lookup text) (other.data.lookup text) := by
  rw [← Block.get?_namedMap, ← Block.get?_namedMap]
  exact hread.data.rel_get? htext

theorem BlockRead.lookup_eq {text : String} (htext : IsOther callNames text)
    (hassertions : "assertions" ≠ text) : block.data.lookup text = other.data.lookup text := by
  have hrel := hread.rel_lookup htext
  generalize block.data.lookup text = value at hrel ⊢
  generalize other.data.lookup text = another at hrel ⊢
  cases hrel with
  | none => rfl
  | some hwithin => rw [within_other (by simpa using hassertions) hwithin]

theorem BlockRead.dataAssertions : SameResults block.dataAssertions other.dataAssertions := by
  obtain ⟨-, -, -, -, -, -, -, -, -, hassertions⟩ := Block.mk.inj hread.same
  have hrel := hread.rel_lookup (by decide : IsOther callNames "assertions")
  have hitems : List.Forall₂ (AsMap AssertionRespelled)
      (Value.orNull (block.data.lookup "assertions")).mapsOnly
      (Value.orNull (other.data.lookup "assertions")).mapsOnly := by
    generalize block.data.lookup "assertions" = value at hrel ⊢
    generalize other.data.lookup "assertions" = another at hrel ⊢
    cases hrel with
    | none => exact .nil
    | some hwithin => exact (within_head.mp hwithin).mapsOnly
  unfold Block.dataAssertions
  rw [← hassertions]
  split
  · exact .mapM (hitems.imp fun _ _ hitem => Block.payload_sameResults
      (hitem.alike (fun _ => .refl _) fun _ _ => DataAssertion.read_alike))
  · exact .refl _

theorem BlockRead.readAlike : block.ReadAlike other ∧ block.heading = other.heading := by
  obtain ⟨-, htype, hlabel, horder, henabled, -, hcode, hwrap, hname, -⟩ :=
    Block.mk.inj hread.same
  have hui : SameResults block.uiChecks other.uiChecks :=
    Block.payload_sameResults (UiChecks.read_alike hread.data)
  have hcall : SameResults block.callData other.callData :=
    Block.payload_sameResults (CallData.read_alike hread.data)
  have hsource : block.sourceCode = other.sourceCode := by
    unfold Block.sourceCode
    rw [hcode, hread.lookup_eq (by decide) (by decide)]
  have hheading : block.heading = other.heading := by
    unfold Block.heading
    rw [hlabel, htype]
  refine ⟨⟨htype, horder, henabled, hwrap, hname, hsource, hui, hcall, hread.dataAssertions,
    Block.storedNames_sameResults htype hui hcall fun hcalls hchecks => ?_⟩, hheading⟩
  rw [← Block.get?_namedMap, ← Block.get?_namedMap]
  exact hread.stored hcalls hchecks

end

/-! Screens. -/

/-- Blocks that read alike, under the same heading. -/
abbrev SameBlock (block other : Block) : Prop :=
  block.ReadAlike other ∧ block.heading = other.heading

theorem forall₂_functions {functions others : List (String × Value)}
    (hrespelled : FunctionsRespelled True (namedEntries functions) (namedEntries others)) :
    List.Forall₂ (fun pair other => other.1 = pair.1 ∧
      AsMap (FunctionRespelled True) pair.2 other.2) functions others := by
  have hentries := respelled_nil_iff.mp hrespelled
  unfold namedEntries at hentries
  rw [List.forall₂_map_left_iff, List.forall₂_map_right_iff] at hentries
  exact hentries.imp fun pair other hpair => ⟨Key.name.inj hpair.1, hpair.2⟩

section

variable {screen other : Screen} (hread : ScreenRead screen other)
include hread

theorem ScreenRead.instanceName : screen.instanceName = other.instanceName := by
  obtain ⟨hkey, -, -, -, hobject, hscreen, -⟩ := Screen.mk.inj hread.same
  unfold Screen.instanceName
  rw [hobject, hscreen, hkey]

theorem ScreenRead.functionBlock (position : Nat) (method : String) {spec otherSpec : Value}
    (hspec : AsMap (FunctionRespelled True) spec otherSpec) :
    screen.functionBlock position method spec = other.functionBlock position method otherSpec := by
  unfold Screen.functionBlock
  cases hspec with
  | same => rw [hread.instanceName]
  | map hfunction =>
      have hget {text : String} (htext : IsOther callNames text) :=
        eq_of_rel_eq (hfunction.entries.rel_get? htext)
      simp only [Value.entries?, Option.getD_some, hread.instanceName,
        hget (by decide : IsOther callNames "signature"),
        hget (by decide : IsOther callNames "parameters"), hfunction.stored trivial]
      rfl

theorem ScreenRead.functionBlocks (position : Nat) {functions others : List (String × Value)}
    (hfunctions : List.Forall₂ (fun pair other => other.1 = pair.1 ∧
      AsMap (FunctionRespelled True) pair.2 other.2) functions others) :
    screen.functionBlocks position functions = other.functionBlocks position others := by
  induction hfunctions generalizing position with
  | nil => rfl
  | @cons pair another rest others hfirst _ ih =>
      obtain ⟨method, spec⟩ := pair
      obtain ⟨_, otherSpec⟩ := another
      obtain ⟨rfl, hspec⟩ := hfirst
      unfold Screen.functionBlocks
      rw [hread.functionBlock position _ hspec, ih (position + 1)]

theorem ScreenRead.isLegacy : screen.isLegacy = other.isLegacy := by
  obtain ⟨-, -, -, -, -, -, -, -, hvisible, hhidden, hchecks, htruthy, hfalsy, hassertions, -⟩ :=
    Screen.mk.inj hread.same
  have hisEmpty {α β : Type} {R : α → β → Prop} {items : List α} {others : List β}
      (hitems : List.Forall₂ R items others) : items.isEmpty = others.isEmpty := by
    cases hitems <;> rfl
  unfold Screen.isLegacy
  rw [hvisible, hhidden, hchecks, htruthy, hfalsy, hassertions, hisEmpty hread.blocks,
    hisEmpty (forall₂_functions hread.functions)]

theorem ScreenRead.effectiveBlocks :
    Agree (List.Forall₂ SameBlock) screen.effectiveBlocks other.effectiveBlocks := by
  obtain ⟨-, -, -, -, -, -, -, -, hvisible, hhidden, hchecks, htruthy, hfalsy, hassertions, -⟩ :=
    Screen.mk.inj hread.same
  have hlegacy := hread.isLegacy
  unfold Screen.effectiveBlocks
  rw [← hlegacy]
  -- In the older form the blocks are made of the fields, and these are the same.
  split
  · have hchecksBlock : screen.checksBlock = other.checksBlock := by
      unfold Screen.checksBlock
      rw [hvisible, hhidden, hchecks, htruthy, hfalsy, hassertions]
    rw [hchecksBlock, hread.functionBlocks 1 (forall₂_functions hread.functions)]
    exact (SameResults.refl _).mono fun all _ heq => heq ▸ List.forall₂_same.mpr fun block _ =>
      ⟨Block.readAlike_of_unnamed rfl, rfl⟩
  · exact .done (hread.blocks.imp fun _ _ => BlockRead.readAlike)

theorem ScreenRead.readAlike : screen.ReadAlike other := by
  obtain ⟨hkey, -, hnavigation, -, hobject, hscreen, -, hdescription, -⟩ :=
    Screen.mk.inj hread.same
  exact ⟨hkey, hobject, hscreen, hdescription, hnavigation, hread.effectiveBlocks.mono
    fun _ _ hblocks => hblocks.imp fun _ _ => And.left⟩

end

/-! Platforms. -/

theorem ScreenRead.order {screen other : Screen} (hread : ScreenRead screen other) :
    screen.order = other.order :=
  (Screen.mk.inj hread.same).2.1

theorem definitions_respelled {careful : Prop} {first second : Entries}
    (hrespelled : PlatformRespelled careful first second) :
    List.Forall₂ (fun entry other => other.1 = entry.1 ∧
        ScreenRespelled careful entry.1 entry.2 other.2)
      (first.filterMap fun entry => (Screen.definition? entry.2).map (entry.1, ·))
      (second.filterMap fun entry => (Screen.definition? entry.2).map (entry.1, ·)) := by
  refine List.rel_filterMap (fun entry other hentry => ?_) (respelled_nil_iff.mp hrespelled)
  obtain ⟨hkey, hvalue⟩ := hentry
  have hrel := Screen.rel_definition? hvalue
  rw [hkey]
  generalize Screen.definition? entry.2 = definition at hrel ⊢
  generalize Screen.definition? other.2 = another at hrel ⊢
  cases hrel with
  | none => exact .none
  | some hscreen => exact .some ⟨rfl, hscreen⟩

/-- Screens under other names are read as before. -/
theorem Screen.ofPlatform_agree {first second : List (String × Value)}
    (hrespelled : MirrorsRespelled True first second) (validationKey : String) :
    Agree (List.Forall₂ ScreenRead) (ofPlatform (some first) validationKey)
      (ofPlatform (some second) validationKey) := by
  have hui : Option.Rel (InterfaceRespelled True) ((first.lookup "UI").bind Value.entries?)
      ((second.lookup "UI").bind Value.entries?) := by
    have hrel := hrespelled.rel_get? (nofun : IsOther [] "UI")
    unfold namedEntries at hrel
    rw [Block.get?_namedMap, Block.get?_namedMap] at hrel
    generalize first.lookup "UI" = value at hrel ⊢
    generalize second.lookup "UI" = other at hrel ⊢
    cases hrel with
    | none => exact .none
    | some hwithin => exact (within_head.mp hwithin).rel_entries? .refl
  unfold ofPlatform
  simp only [Option.bind_some]
  generalize (first.lookup "UI").bind Value.entries? = ui at hui ⊢
  generalize (second.lookup "UI").bind Value.entries? = other at hui ⊢
  cases hui with
  | none => exact .done .nil
  | some hinterface =>
      have hdefinitions := definitions_respelled
        (platformEntries_respelled hinterface validationKey)
      refine (Agree.mapM (hdefinitions.imp fun entry other hentry => ?_)).bind
        fun _ _ hscreens => .done (Lowering.forall₂_byOrder (fun _ _ hread => hread.order) hscreens)
      rw [hentry.1]
      exact readUnder_agree hentry.2 validationKey

/-- A screen without the data that stays as it is written. -/
def Screen.withoutData (screen : Screen) : Screen :=
  { screen with
    blocks := screen.blocks.map fun block => { block with data := [] }
    functions := screen.functions.map fun function => (function.1, .null) }

theorem map_eq_map_of_forall₂ {α β γ : Type} {f : α → γ} {g : β → γ} {items : List α}
    {others : List β} (hall : List.Forall₂ (fun item other => f item = g other) items others) :
    items.map f = others.map g := by
  induction hall with
  | nil => rfl
  | cons hfirst _ ih => rw [List.map_cons, List.map_cons, hfirst, ih]

theorem ScreenRead.withoutData {screen other : Screen} (hread : ScreenRead screen other) :
    screen.withoutData = other.withoutData := by
  have hblocks : screen.blocks.map (fun block => { block with data := [] }) =
      other.blocks.map fun block => { block with data := [] } :=
    map_eq_map_of_forall₂ (hread.blocks.imp fun _ _ hblock => hblock.same)
  have hfunctions : screen.functions.map (fun function => (function.1, Value.null)) =
      other.functions.map fun function => (function.1, Value.null) :=
    map_eq_map_of_forall₂ ((forall₂_functions hread.functions).imp fun _ _ hfunction => by
      rw [hfunction.1])
  have hparts (screen : Screen) : screen.withoutData =
      { ({ screen with blocks := [], functions := [] } : Screen) with
        blocks := screen.blocks.map fun block => { block with data := [] }
        functions := screen.functions.map fun function => (function.1, .null) } := rfl
  rw [hparts, hparts, hread.same, hblocks, hfunctions]

/-- Screens of which the same is read have the same plans. -/
theorem ScreenRead.plans {screen other : Screen} (hread : ScreenRead screen other)
    (options : Lowering.Options) {ledger otherLedger : Ledger}
    (hledger : ledger.SameReferences otherLedger) :
    SameResults ((Lowering.screen screen options).run ledger).1
      ((Lowering.screen other options).run otherLedger).1 := by
  refine (Lowering.screen_agree (fun _ _ => And.left) hread.readAlike hread.effectiveBlocks options
    hledger).mono ?_
  rintro plan another ⟨hplans, blocks, others, hblocks, hlabels, hlabelsOther⟩
  have hheadings : blocks.map Block.heading = others.map Block.heading :=
    map_eq_map_of_forall₂ (hblocks.imp fun _ _ => And.right)
  exact hplans.eq (hlabels.trans (hheadings.trans hlabelsOther.symm))

/-- Under whichever of their names the fields are given: where what is read past the schema is the
same, the same screens are read, or none, and from contexts alike they have the same plans. -/
theorem plans_of_respelled {first second : List (String × Value)}
    (hrespelled : MirrorsRespelled True first second) (validationKey : String) :
    Agree
      (List.Forall₂ fun screen other => screen.withoutData = other.withoutData ∧
        ∀ options ledger otherLedger, Ledger.SameReferences ledger otherLedger →
          SameResults ((Lowering.screen screen options).run ledger).1
            ((Lowering.screen other options).run otherLedger).1)
      (Screen.ofPlatform (some first) validationKey)
      (Screen.ofPlatform (some second) validationKey) :=
  (Screen.ofPlatform_agree hrespelled validationKey).mono fun _ _ hscreens =>
    hscreens.imp fun _ _ hread =>
      ⟨hread.withoutData, fun options _ _ hledger => hread.plans options hledger⟩

/-! Screens under other names. -/

/-- One screen for one platform. -/
def mirrored (screen : Entries) : List (String × Value) :=
  [("UI", .map [(.name "web", .map [(.name "details", .map screen)])])]

theorem mirrored_respelled {careful : Prop} {first second : Entries}
    (hscreen : ScreenRespelled careful (.name "details") first second) :
    MirrorsRespelled careful (mirrored first) (mirrored second) := by
  have hplatform : PlatformRespelled careful [(.name "details", .map first)]
      [(.name "details", .map second)] :=
    respelled_of_same_keys (.cons ⟨rfl, .single (.map hscreen)⟩ .nil)
  have hinterface : InterfaceRespelled careful
      [(.name "web", .map [(.name "details", .map first)])]
      [(.name "web", .map [(.name "details", .map second)])] :=
    respelled_of_same_keys (.cons ⟨rfl, .map hplatform⟩ .nil)
  exact respelled_of_same_keys (.cons ⟨rfl, within_head.mpr (.map hinterface)⟩ .nil)

def screenOf (block : Entries) : Entries :=
  [(.name "blocks", .list [.map block])]

theorem screenOf_respelled {careful : Prop} {key : Key} {first second : Entries}
    (hblock : BlockRespelled careful first second) :
    ScreenRespelled careful key (screenOf first) (screenOf second) where
  entries := respelled_of_same_keys
    (.cons ⟨rfl, within_head.mpr (.list (.cons (.map hblock) .nil))⟩ .nil)
  key _ := rfl

/-- For every plan of the platform the key of its screen and what its blocks store under. -/
def keysAndNames (mirrors : List (String × Value)) :
    Option (List (Option (String × List (List String)))) :=
  (Screen.ofPlatform (some mirrors) "web").toOption.map fun screens => screens.map fun screen =>
    ((Lowering.screen screen { isNative := false }).run {}).1.toOption.map fun plan =>
      (plan.screenKey, plan.blocks.map LoweredBlock.stored)

/-- A call in a step of its own, with every field that has a long name. -/
def calling (wrap step waits store className : String) : Entries :=
  [(.name "type", .text BlockType.functionCall), (.name wrap, .bool true),
    (.name step, .text "Read the total"),
    (.name "data", .map [(.name "method", .text "readTotal"), (.name waits, .bool false),
      (.name store, .text "total"), (.name className, .text "Cart")])]

def callingByEditor : Entries :=
  calling "wrapInTestStep" "testStepName" "await" "storeAs" "className"

def callingByLong : Entries :=
  calling "wrap_in_test_step" "test_step_name" "is_async" "store_as" "class_name"

theorem calling_respelled {careful : Prop} :
    BlockRespelled careful callingByEditor callingByLong := by
  have hdata : DataRespelled
      [(.name "method", .text "readTotal"), (.name "await", .bool false),
        (.name "storeAs", .text "total"), (.name "className", .text "Cart")]
      [(.name "method", .text "readTotal"), (.name "is_async", .bool false),
        (.name "store_as", .text "total"), (.name "class_name", .text "Cart")] :=
    @respelled_map_spelled _ _ callNames (List.Subset.refl _)
      (within_self (by simpa using InItems.refl)) _ (by simp [callNames, storeName, Entries.get?])
  exact ⟨⟨blockNames, List.Subset.refl _, .cons ⟨rfl, rfl⟩ (.cons ⟨rfl, rfl⟩ (.cons ⟨rfl, rfl⟩
    (.cons ⟨rfl, within_head.mpr (.map hdata)⟩ .nil))),
    by simp [blockNames, callingByEditor, calling, Entries.get?]⟩, fun _ => rfl⟩

theorem plans_of_calling :
    MirrorsRespelled True (mirrored (screenOf callingByEditor))
        (mirrored (screenOf callingByLong)) ∧
      keysAndNames (mirrored (screenOf callingByEditor)) = some [some ("details", [["total"]])] ∧
      Agree
        (List.Forall₂ fun screen other => screen.withoutData = other.withoutData ∧
          ∀ options ledger otherLedger, Ledger.SameReferences ledger otherLedger →
            SameResults ((Lowering.screen screen options).run ledger).1
              ((Lowering.screen other options).run otherLedger).1)
        (Screen.ofPlatform (some (mirrored (screenOf callingByEditor))) "web")
        (Screen.ofPlatform (some (mirrored (screenOf callingByLong))) "web") :=
  have hrespelled := mirrored_respelled (screenOf_respelled calling_respelled)
  ⟨hrespelled, by decide +kernel, plans_of_respelled hrespelled "web"⟩

/-! What is read past the schema. -/

def keyedScreen (name : String) : Entries :=
  [(.name name, .text "summary"), (.name "visible", .list [.text "total"])]

def storingBlock (name : String) : Entries :=
  [(.name "type", .text BlockType.customCode),
    (.name "data", .map [(.name "code", .text "await cart.sum();"), (.name name, .text "total")])]

def legacyScreen (name : String) : Entries :=
  [(.name "functions", .map [(.name "sum", .map [(.name name, .text "total")])])]

/-- What the blocks of the platform's screens store under. -/
def namesStored (mirrors : List (String × Value)) :
    Option (List (Option (List (Option (List String))))) :=
  (Screen.ofPlatform (some mirrors) "web").toOption.map fun screens => screens.map fun screen =>
    screen.effectiveBlocks.toOption.map fun blocks => blocks.map fun block =>
      block.storedNames.toOption

theorem keyedScreen_respelled :
    ScreenRespelled False (.name "details") (keyedScreen "screenKey")
      (keyedScreen "screen_key") :=
  ⟨respelled_map_spelled (List.Subset.refl [screenName]) (within_self screenFields_refl)
    (by simp [keyedScreen, screenName, Entries.get?]), False.elim⟩

theorem storingBlock_respelled :
    BlockRespelled False (storingBlock "storeAs") (storingBlock "store_as") := by
  have hdata : DataRespelled
      [(.name "code", .text "await cart.sum();"), (.name "storeAs", .text "total")]
      [(.name "code", .text "await cart.sum();"), (.name "store_as", .text "total")] :=
    @respelled_map_spelled _ _ [storeName] (by simp [callNames])
      (within_self (by simpa using InItems.refl)) _ (by simp [storeName, Entries.get?])
  exact ⟨respelled_of_same_keys
    (.cons ⟨rfl, rfl⟩ (.cons ⟨rfl, within_head.mpr (.map hdata)⟩ .nil)), False.elim⟩

theorem legacyScreen_respelled :
    ScreenRespelled False (.name "details") (legacyScreen "storeAs") (legacyScreen "store_as") := by
  have hfunction : FunctionRespelled False [(.name "storeAs", .text "total")]
      [(.name "store_as", .text "total")] :=
    ⟨@respelled_map_spelled _ _ [storeName] (by simp [callNames]) (fun _ _ => rfl) _
      (by simp [storeName, Entries.get?]), False.elim⟩
  have hfunctions : FunctionsRespelled False
      [(.name "sum", .map [(.name "storeAs", .text "total")])]
      [(.name "sum", .map [(.name "store_as", .text "total")])] :=
    respelled_of_same_keys (.cons ⟨rfl, .map hfunction⟩ .nil)
  exact ⟨respelled_of_same_keys (.cons ⟨rfl, (within_tail (by decide)).mpr
    ((within_tail (by decide)).mpr (within_head.mpr (.map hfunctions)))⟩ .nil), False.elim⟩

/-- The key of a screen, what custom code stores under and what a function stores under are looked
for under the names that the editor writes only. -/
theorem long_names_not_read :
    (MirrorsRespelled False (mirrored (keyedScreen "screenKey"))
        (mirrored (keyedScreen "screen_key")) ∧
      keysAndNames (mirrored (keyedScreen "screenKey")) = some [some ("summary", [[]])] ∧
      keysAndNames (mirrored (keyedScreen "screen_key")) = some [some ("details", [[]])]) ∧
    (MirrorsRespelled False (mirrored (screenOf (storingBlock "storeAs")))
        (mirrored (screenOf (storingBlock "store_as"))) ∧
      keysAndNames (mirrored (screenOf (storingBlock "storeAs"))) =
        some [some ("details", [["total"]])] ∧
      keysAndNames (mirrored (screenOf (storingBlock "store_as"))) =
        some [some ("details", [[]])]) ∧
    MirrorsRespelled False (mirrored (legacyScreen "storeAs"))
        (mirrored (legacyScreen "store_as")) ∧
      namesStored (mirrored (legacyScreen "storeAs")) = some [some [some [], some ["total"]]] ∧
      namesStored (mirrored (legacyScreen "store_as")) = some [some [some [], some []]] :=
  ⟨⟨mirrored_respelled keyedScreen_respelled, by decide +kernel, by decide +kernel⟩,
    ⟨mirrored_respelled (screenOf_respelled storingBlock_respelled), by decide +kernel,
      by decide +kernel⟩,
    mirrored_respelled legacyScreen_respelled, by decide +kernel, by decide +kernel⟩

end ScreenFlow
