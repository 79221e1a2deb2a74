import ScreenFlow.Proofs.Effect.Agreeing
import ScreenFlow.Proofs.Entries
import ScreenFlow.Proofs.Schema.Respelled
import ScreenFlow.Screen

/-!
Screens whose fields are given under other names.
-/

namespace ScreenFlow

open Schema Reading

/-- The values are the same, or maps whose entries go together. -/
inductive AsMap (R : Entries → Entries → Prop) : Value → Value → Prop
  | same (value : Value) : AsMap R value value
  | map {first second : Entries} : R first second → AsMap R (.map first) (.map second)

/-- The items of a list, or a value that counts as one item, go together. -/
inductive InItems (R : Entries → Entries → Prop) : Value → Value → Prop
  | single {value other : Value} : AsMap R value other → InItems R value other
  | list {items others : List Value} : List.Forall₂ (AsMap R) items others →
      InItems R (.list items) (.list others)
  | tuple {items others : List Value} : List.Forall₂ (AsMap R) items others →
      InItems R (.tuple items) (.tuple others)

/-! Fields with a long name beside the one the editor writes. -/

def storeName : Schema.Name := ⟨"storeAs", "store_as"⟩

def callNames : List Schema.Name :=
  [⟨"await", "is_async"⟩, storeName, ⟨"className", "class_name"⟩]

def blockNames : List Schema.Name :=
  [⟨"wrapInTestStep", "wrap_in_test_step"⟩, ⟨"testStepName", "test_step_name"⟩]

def screenName : Schema.Name := ⟨"screenKey", "screen_key"⟩

/-! What is read past the schema, under the name that the editor writes. -/

/-- The text that an entry of the data stores under, as it stands there. -/
def storedText? (data : Entries) : Option String :=
  Block.filled (Value.orNull (data.get? "storeAs")).string?

def typeText (block : Entries) : String :=
  ((block.get? "type").bind Value.string?).getD ""

def dataOf (block : Entries) : Entries :=
  ((block.get? "data").bind Value.entries?).getD []

/-- What a block stores under as it stands in its data.  Calls and checks do not store under it. -/
def storedDirectly? (block : Entries) : Option String :=
  if typeText block = BlockType.functionCall || typeText block = BlockType.uiAssertion then none
  else storedText? (dataOf block)

/-- The key of a screen: its own, if that is not empty. -/
def keyText (key : Key) (own : String) : String :=
  if own = "" then key.text else own

/-- The entries that a screen under a key is read from. -/
def withKey (key : Key) (definition : Entries) : Entries :=
  Entries.ofPairs ((.name "screenKey", Screen.keyValue key) :: definition)

/-- The key that a screen gets under a key; none if its own is no text. -/
def screenKey? (key : Key) (definition : Entries) : Option String :=
  (((withKey key definition).get? "screenKey").bind Value.string?).map (keyText key)

/-! Every level of the screens, the innermost first.  Where `careful` holds, what is read past the
schema is the same. -/

section

variable (careful : Prop)

def AssertionRespelled : Entries → Entries → Prop :=
  Respelled [storeName] (Within [])

def DataRespelled : Entries → Entries → Prop :=
  Respelled callNames (Within [("assertions", InItems AssertionRespelled)])

structure BlockRespelled (first second : Entries) : Prop where
  entries : Respelled blockNames (Within [("data", AsMap DataRespelled)]) first second
  stored : careful → storedDirectly? first = storedDirectly? second

/-- A function of a screen in the older form. -/
structure FunctionRespelled (first second : Entries) : Prop where
  entries : Respelled callNames (Within []) first second
  stored : careful → Value.orNull (first.get? "storeAs") = Value.orNull (second.get? "storeAs")

def FunctionsRespelled : Entries → Entries → Prop :=
  Respelled [] fun _ => AsMap (FunctionRespelled careful)

structure ScreenRespelled (key : Key) (first second : Entries) : Prop where
  entries : Respelled [screenName]
    (Within [("blocks", InItems (BlockRespelled careful)),
      ("assertions", InItems AssertionRespelled),
      ("functions", AsMap (FunctionsRespelled careful))]) first second
  key : careful → screenKey? key first = screenKey? key second

def PlatformRespelled : Entries → Entries → Prop :=
  Respelled [] fun key => InItems (ScreenRespelled careful key)

/-- The platforms, by their keys. -/
def InterfaceRespelled : Entries → Entries → Prop :=
  Respelled [] fun _ => AsMap (PlatformRespelled careful)

def namedEntries (pairs : List (String × Value)) : Entries :=
  pairs.map fun pair => (.name pair.1, pair.2)

/-- Everything that is mirrored for a unit. -/
def MirrorsRespelled (first second : List (String × Value)) : Prop :=
  Respelled [] (Within [("UI", AsMap (InterfaceRespelled careful))]) (namedEntries first)
    (namedEntries second)

end

/-! Readings of what was respelled. -/

theorem AsMap.isMap {R : Entries → Entries → Prop} {value other : Value}
    (hvalue : AsMap R value other) : value.isMap = other.isMap := by
  cases hvalue <;> rfl

theorem AsMap.alike {α β : Type} {R : Entries → Entries → Prop} {S : α → β → Prop}
    {read : Value → Reading α} {readOther : Value → Reading β}
    (hsame : ∀ value, Alike S (read value) (readOther value))
    (hmap : ∀ first second, R first second → Alike S (read (.map first)) (readOther (.map second)))
    {value other : Value} (hvalue : AsMap R value other) :
    Alike S (read value) (readOther other) := by
  cases hvalue with
  | same => exact hsame value
  | map hentries => exact hmap _ _ hentries

theorem InItems.mapsOnly {R : Entries → Entries → Prop} {value other : Value}
    (hvalue : InItems R value other) :
    List.Forall₂ (AsMap R) value.mapsOnly other.mapsOnly := by
  have hkept {items others : List Value} (hitems : List.Forall₂ (AsMap R) items others) :
      List.Forall₂ (AsMap R) (items.filter Value.isMap) (others.filter Value.isMap) :=
    List.rel_filter (fun _ _ hitem => iff_of_eq (congrArg (· = true) hitem.isMap)) hitems
  cases hvalue with
  | single hsingle =>
      cases hsingle with
      | same => exact List.forall₂_same.mpr fun item _ => .same item
      | map hentries => exact .cons (.map hentries) .nil
  | list hitems => exact hkept hitems
  | tuple hitems => exact hkept hitems

theorem InItems.recordsOnly_alike {α β : Type} {R : Entries → Entries → Prop} {S : α → β → Prop}
    {read : Value → Reading α} {readOther : Value → Reading β}
    (hread : ∀ value other, AsMap R value other → Alike S (read value) (readOther other))
    {value other : Value} (hvalue : InItems R value other) :
    Alike (List.Forall₂ S) (recordsOnly read value) (recordsOnly readOther other) :=
  .each (hvalue.mapsOnly.imp fun item another => hread item another)

theorem callNames_distinct : Distinct callNames := ⟨by decide, by decide⟩

theorem storeName_distinct : Distinct [storeName] := ⟨by decide, by decide⟩

theorem FunctionAssertion.isField {field : Schema.Name} (hfield : field ∈ fieldNames) :
    IsField [storeName] field := by
  revert field
  simp only [fieldNames, List.forall_mem_cons]
  exact ⟨isField_same (by decide), isField_same (by decide), isField_same (by decide),
    isField_same (by decide), .inl List.mem_cons_self, nofun⟩

theorem FunctionAssertion.read_alike {first second : Entries}
    (hrespelled : AssertionRespelled first second) :
    Alike Eq (read (.map first)) (read (.map second)) := by
  have hfield {α : Type} {name : Schema.Name} (hname : name ∈ fieldNames) (default : α)
      (read : Value → Reading α) :=
    hrespelled.field_alike storeName_distinct (isField hname) nofun default read
  have hspare : Schema.spare first fieldNames = Schema.spare second fieldNames :=
    hrespelled.spare_eq storeName_distinct (by simp [fieldNames, storeName])
      (fun _ => isField) fun _ _ _ => id
  unfold read
  simp only [Schema.record, hspare]
  refine (((((Alike.map_eq ?_ _).seq_eq ?_).seq_eq ?_).seq_eq ?_).seq_eq ?_).seqLeft
    hrespelled.onlyNames_alike <;>
  · refine hfield ?_ _ _
    simp [fieldNames]

theorem InItems.assertions_alike {value other : Value}
    (hvalue : InItems AssertionRespelled value other) :
    Alike Eq (recordsOnly FunctionAssertion.read value)
      (recordsOnly FunctionAssertion.read other) :=
  (hvalue.recordsOnly_alike fun _ _ => AsMap.alike (fun _ => .refl _) fun _ _ =>
    FunctionAssertion.read_alike).mono fun _ _ hresult => List.forall₂_eq_eq_eq ▸ hresult

/-- Nothing that a comparison is read from has another name. -/
theorem DataAssertion.read_alike {first second : Entries}
    (hrespelled : AssertionRespelled first second) :
    Alike Eq (read (.map first)) (read (.map second)) := by
  have hfield {α : Type} {text : String} (htext : IsOther [storeName] text) (default : α)
      (read : Value → Reading α) :=
    hrespelled.field_alike storeName_distinct (isField_same htext) nofun default read
  unfold read
  exact ((((Alike.map_eq (hfield (by decide) _ _) _).seq_eq (hfield (by decide) _ _)).seq_eq
    (hfield (by decide) _ _)).seq_eq (hfield (by decide) _ _)).seqLeft hrespelled.onlyNames_alike

section

variable {first second : Entries} (hrespelled : DataRespelled first second)
include hrespelled

theorem DataRespelled.field {α : Type} {name : Schema.Name} (hname : IsField callNames name)
    (hassertions : "assertions" ≠ name.editor ∧ "assertions" ≠ name.long) (default : α)
    (read : Value → Reading α) :
    Alike Eq (Schema.optional first name default read) (Schema.optional second name default read) :=
  hrespelled.field_alike callNames_distinct hname (by simpa using hassertions) default read

theorem CallData.read_alike : Alike Eq (read (.map first)) (read (.map second)) := by
  have hfield {α : Type} {text : String} (htext : IsOther callNames text)
      (hassertions : "assertions" ≠ text) (default : α) (read : Value → Reading α) :=
    DataRespelled.field hrespelled (isField_same htext) ⟨hassertions, hassertions⟩ default read
  have hnamed {α : Type} {name : Schema.Name} (hname : name ∈ callNames)
      (hassertions : "assertions" ≠ name.editor ∧ "assertions" ≠ name.long) (default : α)
      (read : Value → Reading α) :=
    DataRespelled.field hrespelled (.inl hname) hassertions default read
  unfold read
  exact (((((((Alike.map_eq (hfield (by decide) (by decide) _ _) _).seq_eq
    (hfield (by decide) (by decide) _ _)).seq_eq (hfield (by decide) (by decide) _ _)).seq_eq
    (hnamed (by simp [callNames]) (by decide) _ _)).seq_eq
    (hnamed (by simp [callNames, storeName]) (by decide) _ _)).seq_eq
    (hnamed (by simp [callNames]) (by decide) _ _)).seq_eq
    (hfield (by decide) (by decide) _ _)).seqLeft hrespelled.onlyNames_alike

theorem UiChecks.read_alike : Alike Eq (read (.map first)) (read (.map second)) := by
  have hfield {α : Type} {text : String} (htext : IsOther callNames text)
      (hassertions : "assertions" ≠ text) (default : α) (read : Value → Reading α) :=
    DataRespelled.field hrespelled (isField_same htext) ⟨hassertions, hassertions⟩ default read
  have hassertions : Alike Eq
      (Schema.optional first (.same "assertions") [] (recordsOnly FunctionAssertion.read))
      (Schema.optional second (.same "assertions") [] (recordsOnly FunctionAssertion.read)) := by
    refine optional_same_alike ?_ fun _ _ => rfl
    exact rel_of_eq_some (hrespelled.rel_get? (by decide)) fun _ _ _ _ hwithin =>
      (within_head.mp hwithin).assertions_alike
  unfold read
  exact (((((((Alike.map_eq (hfield (by decide) (by decide) _ _) _).seq_eq
    (hfield (by decide) (by decide) _ _)).seq_eq (hfield (by decide) (by decide) _ _)).seq_eq
    (hfield (by decide) (by decide) _ _)).seq_eq (hfield (by decide) (by decide) _ _)).seq_eq
    hassertions).seq_eq (hfield (by decide) (by decide) _ _)).seqLeft hrespelled.onlyNames_alike

end

/-! Blocks. -/

theorem namedValues_eq_value_iff {entries : Entries} {pairs : List (String × Value)} :
    namedValues (.map entries) = .value pairs ↔ entries = namedEntries pairs := by
  unfold namedValues mapOf
  dsimp only
  induction entries generalizing pairs with
  | nil => cases pairs <;> simp [mapOf.go, namedEntries]
  | cons entry rest ih =>
      obtain ⟨key, value⟩ := entry
      unfold mapOf.go
      cases key with
      | other written =>
          have hrefused : (Reading.both (entryOf any (.other written) value)
              (mapOf.go any rest)).accepted = false := by
            rw [accepted_both]
            rfl
          refine ⟨fun hread => ?_, fun hentries => ?_⟩
          · rw [← accepted_map, hread] at hrefused
            cases hrefused
          · cases pairs <;> cases hentries
      | name text =>
          have hentry : entryOf any (.name text) value = .value (text, value) := rfl
          rw [hentry]
          cases pairs with
          | nil =>
              cases mapOf.go any rest <;> simp [Reading.both, Reading.map, namedEntries]
          | cons pair others =>
              have hrest : (.name text, value) :: rest = namedEntries (pair :: others) ↔
                  (text, value) = pair ∧ rest = namedEntries others := by
                simp [namedEntries, Prod.ext_iff]
              rw [hrest, ← ih]
              cases mapOf.go any rest <;> simp [Reading.both, Reading.map]

theorem mapOrEmpty_eq (value : Value) :
    TextChecks.mapOrEmpty value = .map (value.entries?.getD []) := by
  cases value <;> rfl

theorem namedValues_alike {names : List Schema.Name} {Inner : Key → Value → Value → Prop}
    (hrefl : ∀ entries, Respelled names Inner entries entries) {value other : Value}
    (hvalue : AsMap (Respelled names Inner) value other) :
    Alike (fun pairs others => Respelled names Inner (namedEntries pairs) (namedEntries others))
      (namedValues (TextChecks.mapOrEmpty value)) (namedValues (TextChecks.mapOrEmpty other)) := by
  cases hvalue with
  | same =>
      exact (Alike.refl _).mono fun _ _ heq => heq ▸ hrefl _
  | map hentries =>
      refine .of_accepted ?_ fun pairs others hpairs hothers => ?_
      · change (mapOf any (.map _)).accepted = (mapOf any (.map _)).accepted
        rw [accepted_mapOf, accepted_mapOf]
        simpa [any, accepted, result?] using hentries.all_isName
      · rw [namedValues_eq_value_iff.mp hpairs, namedValues_eq_value_iff.mp hothers] at hentries
        exact hentries

/-- What is read of the blocks is the same, but for data that is respelled. -/
structure BlockRead (block other : Block) : Prop where
  same : { block with data := [] } = { other with data := [] }
  data : DataRespelled (namedEntries block.data) (namedEntries other.data)
  stored : block.type ≠ BlockType.functionCall → block.type ≠ BlockType.uiAssertion →
    storedText? (namedEntries block.data) = storedText? (namedEntries other.data)

theorem blockNames_distinct : Distinct blockNames := ⟨by decide, by decide⟩

theorem DataRespelled.refl (entries : Entries) : DataRespelled entries entries := by
  refine Respelled.refl (within_self ?_) entries
  simp only [List.forall_mem_singleton]
  exact fun value => .single (.same value)

theorem BlockRead.refl (block : Block) : BlockRead block block :=
  ⟨rfl, DataRespelled.refl _, fun _ _ => rfl⟩

theorem FunctionsRespelled.refl {careful : Prop} (entries : Entries) :
    FunctionsRespelled careful entries entries :=
  Respelled.refl (fun _ => AsMap.same) entries

section

variable {first second : Entries} (hrespelled : BlockRespelled True first second)
include hrespelled

theorem BlockRespelled.type_alike :
    Alike (fun text other => text = other ∧ text = typeText first ∧ text = typeText second)
      (Schema.optional first (.same "type") "" Schema.string)
      (Schema.optional second (.same "type") "" Schema.string) := by
  refine optional_same_alike (rel_of_eq_some (hrespelled.entries.rel_get? (by decide))
    fun value other hvalue hother hwithin => ?_) fun hnone hnoneOther =>
      ⟨rfl, by simp [typeText, hnone], by simp [typeText, hnoneOther]⟩
  cases within_other (by simp) hwithin
  refine (Alike.refl _).values.mono ?_
  rintro text _ ⟨rfl, htext, -⟩
  unfold Schema.string at htext
  cases hstring : value.string? with
  | none => simp [hstring, fault] at htext
  | some found => simp_all [typeText]

theorem BlockRespelled.data_alike :
    Alike (fun pairs others => DataRespelled (namedEntries pairs) (namedEntries others) ∧
        namedEntries pairs = dataOf first ∧ namedEntries others = dataOf second)
      (Schema.optional first (.same "data") []
        fun value => namedValues (TextChecks.mapOrEmpty value))
      (Schema.optional second (.same "data") []
        fun value => namedValues (TextChecks.mapOrEmpty value)) := by
  refine optional_same_alike (rel_of_eq_some (hrespelled.entries.rel_get? (by decide))
    fun value other hvalue hother hwithin => ?_) fun hnone hnoneOther =>
      ⟨DataRespelled.refl _, by simp [dataOf, hnone, namedEntries],
        by simp [dataOf, hnoneOther, namedEntries]⟩
  refine (namedValues_alike DataRespelled.refl (within_head.mp hwithin)).values.mono ?_
  rintro pairs others ⟨hdata, hpairs, hothers⟩
  rw [mapOrEmpty_eq, namedValues_eq_value_iff] at hpairs hothers
  exact ⟨hdata, by simp [dataOf, hvalue, hpairs], by simp [dataOf, hother, hothers]⟩

theorem Block.read_alike : Alike BlockRead (read (.map first)) (read (.map second)) := by
  have hfield {α : Type} {name : Schema.Name} (hname : IsField blockNames name)
      (hdata : "data" ≠ name.editor ∧ "data" ≠ name.long) (default : α)
      (read : Value → Reading α) :=
    hrespelled.entries.field_alike blockNames_distinct hname (by simpa using hdata) default read
  unfold read
  refine ((((((((((Alike.map (hfield (isField_same (by decide)) (by decide) _ _) ?_).seq
    hrespelled.type_alike).seq
    (hfield (isField_same (by decide)) (by decide) _ _)).seq
    (hfield (isField_same (by decide)) (by decide) _ _)).seq
    (hfield (isField_same (by decide)) (by decide) _ _)).seq hrespelled.data_alike).seq
    (hfield (isField_same (by decide)) (by decide) _ _)).seq
    (hfield (.inl (by simp [blockNames])) (by decide) _ _)).seq
    (hfield (.inl (by simp [blockNames])) (by decide) _ _)).seq
    (hfield (isField_same (by decide)) (by decide) _ _)).seqLeft
    hrespelled.entries.onlyNames_alike
  rintro id _ rfl type _ ⟨rfl, htype, htypeOther⟩ label _ rfl order _ rfl enabled _ rfl data other
    ⟨hdata, hfirst, hsecond⟩ code _ rfl wrap _ rfl name _ rfl assertions _ rfl
  refine ⟨rfl, hdata, fun hcall hchecks => ?_⟩
  -- What stands in the entries as type and data is what was read of them.
  have hstored := hrespelled.stored trivial
  unfold storedDirectly? at hstored
  rwa [← htype, ← htypeOther, ← hfirst, ← hsecond, if_neg (by simp [hcall, hchecks]),
    if_neg (by simp [hcall, hchecks])] at hstored

end

/-! Screens. -/

theorem get?_withKey (key : Key) (definition : Entries) {text : String}
    (htext : "screenKey" ≠ text) :
    (withKey key definition).get? text = Entries.get? definition.reverse text := by
  have hkey : (Key.name "screenKey" == Key.name text) = false :=
    beq_false_of_ne fun hname => htext (Key.name.inj hname)
  unfold withKey
  rw [Entries.get?_ofPairs, List.filter_cons, hkey, if_neg Bool.false_ne_true,
    ← List.head?_reverse, ← List.filter_reverse, List.head?_filter]
  rfl

theorem exists_get?_withKey (key : Key) (definition : Entries) :
    ∃ value, (withKey key definition).get? "screenKey" = some value := by
  unfold withKey
  rw [Entries.get?_ofPairs, List.filter_cons, beq_self_eq_true, if_pos rfl, List.getLast?_cons]
  exact ⟨_, rfl⟩

theorem all_isName_withKey (key : Key) (definition : Entries) :
    ((withKey key definition).all fun entry => entry.1.isName) =
      definition.all fun entry => entry.1.isName := by
  have hkeys (entries : Entries) : (entries.all fun entry => entry.1.isName) =
      (entries.map Prod.fst).all Key.isName := by
    rw [List.all_map]
    rfl
  unfold withKey
  rw [hkeys, hkeys, Entries.keys_ofPairs, Bool.eq_iff_iff, List.all_eq_true, List.all_eq_true]
  simp [Key.isName]

/-- What is read of the screens is the same, but for data that is respelled. -/
structure ScreenRead (screen other : Screen) : Prop where
  same : { screen with blocks := [], functions := [] } =
    { other with blocks := [], functions := [] }
  blocks : List.Forall₂ BlockRead screen.blocks other.blocks
  functions : FunctionsRespelled True (namedEntries screen.functions) (namedEntries other.functions)

def keyed (key : Key) (screen : Screen) : Screen :=
  { screen with screenKey := keyText key screen.screenKey }

theorem readUnder_eq (key : Key) (validationKey : String) (definition : Entries) :
    Screen.readUnder key validationKey definition =
      match Screen.read (.map (withKey key definition)) with
      | .value screen => .ok (keyed key screen)
      | .issues found => .error (.validation (.invalidScreen key.text validationKey found))
      | .overflow => .error .overflow := by
  change (match Screen.read (.map (withKey key definition)) with
    | .value screen => _ | .issues found => _ | .overflow => _) = _
  cases Screen.read (.map (withKey key definition)) with
  | value screen =>
      unfold keyed keyText
      dsimp only
      split <;> rfl
  | issues found => rfl
  | overflow => rfl

theorem readUnder_of_refused {key : Key} (validationKey : String) {definition : Entries}
    (hread : (Screen.read (.map (withKey key definition))).accepted = false) :
    ∃ failure, Screen.readUnder key validationKey definition = .error failure := by
  rw [readUnder_eq]
  cases hscreen : Screen.read (.map (withKey key definition)) with
  | value screen =>
      rw [hscreen] at hread
      cases hread
  | issues found => exact ⟨_, rfl⟩
  | overflow => exact ⟨_, rfl⟩

section

variable {key : Key} {first second : Entries} (hrespelled : ScreenRespelled True key first second)
include hrespelled

theorem ScreenRespelled.rel_get? {text : String} (hkey : "screenKey" ≠ text)
    (hlong : "screen_key" ≠ text) :
    Option.Rel
      (Within [("blocks", InItems (BlockRespelled True)),
        ("assertions", InItems AssertionRespelled),
        ("functions", AsMap (FunctionsRespelled True))] (.name text))
      ((withKey key first).get? text) ((withKey key second).get? text) := by
  rw [get?_withKey key first hkey, get?_withKey key second hkey]
  refine hrespelled.entries.reverse.rel_get? ?_
  rintro name hname
  cases List.mem_singleton.mp hname
  exact ⟨hkey, hlong⟩

theorem ScreenRespelled.field {α : Type} {text : String}
    (htext : text ∉ ["screenKey", "screen_key", "blocks", "assertions", "functions"])
    (default : α) (read : Value → Reading α) :
    Alike Eq (Schema.optional (withKey key first) (.same text) default read)
      (Schema.optional (withKey key second) (.same text) default read) := by
  simp only [List.mem_cons, List.not_mem_nil, or_false, not_or] at htext
  obtain ⟨hkey, hlong, hblocks, hassertions, hfunctions⟩ := htext
  refine optional_same_alike (rel_of_eq_some
    (hrespelled.rel_get? (Ne.symm hkey) (Ne.symm hlong)) fun value other _ _ hwithin => ?_)
    fun _ _ => rfl
  rw [within_other (by simp [Ne.symm hblocks, Ne.symm hassertions, Ne.symm hfunctions]) hwithin]
  exact .refl _

theorem ScreenRespelled.key_alike :
    Alike (fun own other => keyText key own = keyText key other)
      (Schema.optional (withKey key first) ⟨"screenKey", "screen_key"⟩ "" Schema.string)
      (Schema.optional (withKey key second) ⟨"screenKey", "screen_key"⟩ "" Schema.string) := by
  have hkey := hrespelled.key trivial
  obtain ⟨value, hvalue⟩ := exists_get?_withKey key first
  obtain ⟨other, hother⟩ := exists_get?_withKey key second
  unfold screenKey? at hkey
  rw [hvalue, hother, Option.bind_some, Option.bind_some] at hkey
  refine optional_alike ?_ fun hnone _ => by simp [Schema.given?, hvalue] at hnone
  simp only [Schema.given?, hvalue, hother]
  refine .some ?_
  unfold Schema.string
  cases hown : value.string? with
  | none =>
      rw [hown, Option.map_none, eq_comm, Option.map_eq_none_iff] at hkey
      rw [hkey]
      exact .refused rfl rfl
  | some own =>
      rw [hown, Option.map_some, eq_comm, Option.map_eq_some_iff] at hkey
      obtain ⟨another, hanother, hsame⟩ := hkey
      rw [hanother]
      exact .value hsame.symm

theorem ScreenRespelled.onlyNames_alike :
    Alike Eq (Schema.onlyNames (withKey key first)) (Schema.onlyNames (withKey key second)) := by
  refine .of_accepted ?_ fun _ _ _ _ => rfl
  rw [accepted_onlyNames, accepted_onlyNames, all_isName_withKey, all_isName_withKey]
  exact hrespelled.entries.all_isName

theorem Screen.read_alike :
    Alike (fun screen other => ScreenRead (keyed key screen) (keyed key other))
      (read (.map (withKey key first))) (read (.map (withKey key second))) := by
  have hblocks : Alike (List.Forall₂ BlockRead)
      (Schema.optional (withKey key first) (.same "blocks") [] (recordsOnly Block.read))
      (Schema.optional (withKey key second) (.same "blocks") [] (recordsOnly Block.read)) :=
    optional_same_alike (rel_of_eq_some (hrespelled.rel_get? (by decide) (by decide))
      fun _ _ _ _ hwithin => (within_head.mp hwithin).recordsOnly_alike fun _ _ =>
        AsMap.alike (fun _ => (Alike.refl _).mono fun block _ heq => heq ▸ .refl block)
          fun _ _ => Block.read_alike) fun _ _ => .nil
  have hassertions : Alike Eq
      (Schema.optional (withKey key first) (.same "assertions") []
        (recordsOnly FunctionAssertion.read))
      (Schema.optional (withKey key second) (.same "assertions") []
        (recordsOnly FunctionAssertion.read)) :=
    optional_same_alike (rel_of_eq_some (hrespelled.rel_get? (by decide) (by decide))
      fun _ _ _ _ hwithin => InItems.assertions_alike
        (within_head.mp ((within_tail (by decide)).mp hwithin))) fun _ _ => rfl
  have hfunctions : Alike (fun functions others =>
        FunctionsRespelled True (namedEntries functions) (namedEntries others))
      (Schema.optional (withKey key first) (.same "functions") []
        fun value => namedValues (TextChecks.mapOrEmpty value))
      (Schema.optional (withKey key second) (.same "functions") []
        fun value => namedValues (TextChecks.mapOrEmpty value)) :=
    optional_same_alike (rel_of_eq_some (hrespelled.rel_get? (by decide) (by decide))
      fun _ _ _ _ hwithin => namedValues_alike FunctionsRespelled.refl
        (within_head.mp ((within_tail (by decide)).mp ((within_tail (by decide)).mp hwithin))))
      fun _ _ => FunctionsRespelled.refl []
  unfold read
  refine (((((((((((((((Alike.map hrespelled.key_alike ?_).seq
    (hrespelled.field (by decide) _ _)).seq (hrespelled.field (by decide) _ _)).seq
    hblocks).seq (hrespelled.field (by decide) _ _)).seq (hrespelled.field (by decide) _ _)).seq
    (hrespelled.field (by decide) _ _)).seq (hrespelled.field (by decide) _ _)).seq
    (hrespelled.field (by decide) _ _)).seq (hrespelled.field (by decide) _ _)).seq
    (hrespelled.field (by decide) _ _)).seq (hrespelled.field (by decide) _ _)).seq
    (hrespelled.field (by decide) _ _)).seq hassertions).seq hfunctions).seqLeft
    hrespelled.onlyNames_alike
  rintro own other hkey order _ rfl navigation _ rfl blocks others hblocks object _ rfl
    screen _ rfl name _ rfl description _ rfl visible _ rfl hidden _ rfl checks _ rfl
    truthy _ rfl falsy _ rfl assertions _ rfl functions otherFunctions hfunctions
  refine ⟨?_, hblocks, hfunctions⟩
  simp only [keyed, hkey]

end

theorem Screen.readUnder_agree {key : Key} {first second : Entries}
    (hrespelled : ScreenRespelled True key first second) (validationKey : String) :
    Agree ScreenRead (readUnder key validationKey first)
      (readUnder key validationKey second) := by
  rcases (Screen.read_alike hrespelled).elim with
    ⟨screen, other, hscreen, hother, hread⟩ | ⟨hfirst, hsecond⟩
  · rw [readUnder_eq, readUnder_eq, hscreen, hother]
    exact .done hread
  · obtain ⟨failure, hfailure⟩ := readUnder_of_refused validationKey hfirst
    obtain ⟨another, hanother⟩ := readUnder_of_refused validationKey hsecond
    rw [hfailure, hanother]
    exact .failed failure another

/-! Platforms. -/

section

variable {careful : Prop}

theorem InItems.refl {R : Entries → Entries → Prop} (value : Value) : InItems R value value :=
  .single (.same value)

theorem screenFields_refl : ∀ field ∈ [("blocks", InItems (BlockRespelled careful)),
    ("assertions", InItems AssertionRespelled), ("functions", AsMap (FunctionsRespelled careful))],
    ∀ value, field.2 value value := by
  simp only [List.forall_mem_cons]
  exact ⟨InItems.refl, InItems.refl, AsMap.same, nofun⟩

theorem ScreenRespelled.refl (key : Key) (entries : Entries) :
    ScreenRespelled careful key entries entries :=
  ⟨Respelled.refl (within_self screenFields_refl) entries, fun _ => rfl⟩

theorem PlatformRespelled.refl (entries : Entries) : PlatformRespelled careful entries entries :=
  Respelled.refl (fun _ => InItems.refl) entries

theorem InterfaceRespelled.refl (entries : Entries) : InterfaceRespelled careful entries entries :=
  Respelled.refl (fun _ => AsMap.same) entries

theorem AsMap.rel_entries? {R : Entries → Entries → Prop} (hrefl : ∀ entries, R entries entries)
    {value other : Value} (hvalue : AsMap R value other) :
    Option.Rel R value.entries? other.entries? := by
  cases hvalue with
  | same =>
      cases value.entries? with
      | none => exact .none
      | some entries => exact .some (hrefl entries)
  | map hentries => exact .some hentries

theorem Screen.rel_definition? {key : Key} {value other : Value}
    (hvalue : InItems (ScreenRespelled careful key) value other) :
    Option.Rel (ScreenRespelled careful key) (definition? value) (definition? other) := by
  cases hvalue with
  | single hsingle =>
      cases hsingle with
      | same =>
          cases definition? value with
          | none => exact .none
          | some definition => exact .some (.refl key definition)
      | map hentries => exact .some hentries
  | list hitems =>
      cases hitems with
      | nil => exact .none
      | cons hfirst _ => exact hfirst.rel_entries? (.refl key)
  | tuple hitems => exact .none

theorem rel_find? {Inner : Key → Value → Value → Prop} {first second : Entries}
    (hentries : List.Forall₂ (fun entry other => other.1 = entry.1 ∧ Inner entry.1 entry.2 other.2)
      first second) (test : Key → Bool) :
    Option.Rel (fun entry other => Inner entry.1 entry.2 other.2)
      (first.find? (test ·.1)) (second.find? (test ·.1)) := by
  induction hentries with
  | nil => exact .none
  | @cons entry other rest others hfirst _ ih =>
      rw [List.find?_cons, List.find?_cons, hfirst.1]
      cases test entry.1 with
      | true => exact .some hfirst.2
      | false => exact ih

theorem Screen.platformEntries_respelled {ui other : Entries}
    (hrespelled : InterfaceRespelled careful ui other) (validationKey : String) :
    PlatformRespelled careful (platformEntries ui validationKey)
      (platformEntries other validationKey) := by
  have hexact : Option.Rel (AsMap (PlatformRespelled careful)) (ui.get? validationKey)
      (other.get? validationKey) := hrespelled.rel_get? nofun
  have hfolded := rel_find? (respelled_nil_iff.mp hrespelled)
    fun key => lowerText key.text == lowerText validationKey
  unfold platformEntries
  generalize ui.get? validationKey = value at hexact ⊢
  generalize other.get? validationKey = another at hexact ⊢
  generalize List.find? _ ui = entry at hfolded ⊢
  generalize List.find? _ other = otherEntry at hfolded ⊢
  have hfound : Option.Rel (AsMap (PlatformRespelled careful)) (entry.map (·.2))
      (otherEntry.map (·.2)) := by
    cases hfolded with
    | none => exact .none
    | some hplatform => exact .some hplatform
  have hentries {value other : Option Value}
      (hvalue : Option.Rel (AsMap (PlatformRespelled careful)) value other) :
      PlatformRespelled careful ((value.bind Value.entries?).getD [])
        ((other.bind Value.entries?).getD []) := by
    cases hvalue with
    | none => exact .refl []
    | some hvalue =>
        cases hvalue with
        | same value => exact .refl _
        | map hplatform => exact hplatform
  cases hexact with
  | none => exact hentries hfound
  | some hvalue =>
      cases hvalue with
      | same =>
          -- A platform that is null is looked for as one that is missing.
          split
          · exact hentries hfound
          · exact .refl _
      | map hplatform => exact hplatform

end

end ScreenFlow
