import ScreenFlow.Proofs.Schema.Alike
import ScreenFlow.Proofs.Schema.Replaced

/-!
Records whose fields are given under other names.  A field that is given under its long name in
place of the one the editor writes is read as before, and no other field is read differently.
-/

namespace ScreenFlow

theorem exists_left_of_forall₂ {α β : Type} {R : α → β → Prop} {as : List α} {bs : List β}
    (hall : List.Forall₂ R as bs) {b : β} (hmem : b ∈ bs) : ∃ a ∈ as, R a b := by
  induction hall with
  | nil => cases hmem
  | @cons a b as bs hfirst _ ih =>
      rcases List.mem_cons.mp hmem with rfl | hmem
      · exact ⟨a, List.mem_cons_self, hfirst⟩
      · obtain ⟨other, hother, hrelated⟩ := ih hmem
        exact ⟨other, List.mem_cons_of_mem a hother, hrelated⟩

/-- What goes together may go together in more ways, seeing what it is. -/
theorem rel_of_eq_some {α β : Type} {R S : α → β → Prop} {first : Option α} {second : Option β}
    (hrel : Option.Rel R first second)
    (hRS : ∀ a b, first = some a → second = some b → R a b → S a b) :
    Option.Rel S first second := by
  cases hrel with
  | none => exact .none
  | some hresult => exact .some (hRS _ _ rfl rfl hresult)

theorem eq_of_rel_eq {α : Type} {first second : Option α} (hrel : Option.Rel Eq first second) :
    first = second := by
  cases hrel with
  | none => rfl
  | some hsame => rw [hsame]

namespace Schema

open Reading

/-- A key under which one of the chosen fields is given becomes the long name of that field. -/
def spelled (chosen : List Name) (key : Key) : Key :=
  match chosen.find? fun name => Key.name name.editor == key with
  | some name => .name name.long
  | none => key

/-- The second record is the first with the chosen fields under their long names, which the first
does not use itself.  Values may change in their places, as `Inner` says for each key. -/
structure RespelledBy (chosen : List Name) (Inner : Key → Value → Value → Prop)
    (first second : Entries) : Prop where
  entries : List.Forall₂
    (fun entry other => other.1 = spelled chosen entry.1 ∧ Inner entry.1 entry.2 other.2)
    first second
  unused : ∀ name ∈ chosen, first.get? name.long = none

/-- Some of the named fields are given under their long names. -/
def Respelled (names : List Name) (Inner : Key → Value → Value → Prop)
    (first second : Entries) : Prop :=
  ∃ chosen, chosen ⊆ names ∧ RespelledBy chosen Inner first second

/-- Values change in these fields only, there as each says. -/
def Within (fields : List (String × (Value → Value → Prop))) (key : Key) (value other : Value) :
    Prop :=
  match fields.find? fun field => Key.name field.1 == key with
  | some field => field.2 value other
  | none => value = other

theorem within_self {fields : List (String × (Value → Value → Prop))}
    (hfields : ∀ field ∈ fields, ∀ value, field.2 value value) (key : Key) (value : Value) :
    Within fields key value value := by
  unfold Within
  cases hfind : fields.find? fun field => Key.name field.1 == key with
  | none => rfl
  | some field => exact hfields field (List.mem_of_find?_eq_some hfind) value

theorem within_head {text : String} {R : Value → Value → Prop}
    {rest : List (String × (Value → Value → Prop))} {value other : Value} :
    Within ((text, R) :: rest) (.name text) value other ↔ R value other := by
  simp [Within]

theorem within_tail {text : String} {field : String × (Value → Value → Prop)}
    {rest : List (String × (Value → Value → Prop))} {value other : Value}
    (htext : field.1 ≠ text) :
    Within (field :: rest) (.name text) value other ↔ Within rest (.name text) value other := by
  unfold Within
  rw [List.find?_cons, beq_false_of_ne fun hname => htext (Key.name.inj hname)]

theorem within_other {fields : List (String × (Value → Value → Prop))} {text : String}
    (htext : ∀ field ∈ fields, field.1 ≠ text) {value other : Value}
    (hwithin : Within fields (.name text) value other) : value = other := by
  unfold Within at hwithin
  rwa [List.find?_eq_none.mpr fun field hfield => by simpa using htext field hfield] at hwithin

/-- Every field has two names that no other field has. -/
structure Distinct (names : List Name) : Prop where
  apart : ∀ name ∈ names, ∀ other ∈ names, name.editor ≠ other.long
  same : ∀ name ∈ names, ∀ other ∈ names, name.editor = other.editor ↔ name.long = other.long

/-- The text is none of the names. -/
def IsOther (names : List Name) (text : String) : Prop :=
  ∀ name ∈ names, name.editor ≠ text ∧ name.long ≠ text

instance (names : List Name) (text : String) : Decidable (IsOther names text) :=
  inferInstanceAs (Decidable (∀ name ∈ names, _))

/-- One of the named fields, or a field that shares no name with them. -/
def IsField (names : List Name) (name : Name) : Prop :=
  name ∈ names ∨ IsOther names name.editor ∧ IsOther names name.long

theorem isField_same {names : List Name} {text : String} (htext : IsOther names text) :
    IsField names (.same text) :=
  .inr ⟨htext, htext⟩

theorem spelled_other {names : List Name} {key : Key}
    (hkey : ∀ name ∈ names, Key.name name.editor ≠ key) : spelled names key = key := by
  unfold spelled
  rw [List.find?_eq_none.mpr fun name hname => by simpa using hkey name hname]

theorem spelled_editor {names : List Name} (hdistinct : Distinct names) {name : Name}
    (hname : name ∈ names) : spelled names (.name name.editor) = .name name.long := by
  unfold spelled
  cases hfind : names.find? fun other => Key.name other.editor == .name name.editor with
  | none => simpa using List.find?_eq_none.mp hfind name hname
  | some other =>
      have heditor : other.editor = name.editor := by simpa using List.find?_some hfind
      have hother := List.mem_of_find?_eq_some hfind
      exact congrArg Key.name ((hdistinct.same other hother name hname).mp heditor)

theorem spelled_eq_name {names : List Name} {key : Key} {text : String}
    (hspelled : spelled names key = .name text) :
    (key = .name text ∧ ∀ name ∈ names, name.editor ≠ text) ∨
      ∃ name ∈ names, key = .name name.editor ∧ name.long = text := by
  unfold spelled at hspelled
  cases hfind : names.find? fun name => Key.name name.editor == key with
  | none =>
      rw [hfind] at hspelled
      subst hspelled
      exact .inl ⟨rfl, by simpa using List.find?_eq_none.mp hfind⟩
  | some name =>
      rw [hfind] at hspelled
      have hkey : Key.name name.editor = key := by simpa using List.find?_some hfind
      exact .inr ⟨name, List.mem_of_find?_eq_some hfind, hkey.symm, Key.name.inj hspelled⟩

theorem spelled_isName (chosen : List Name) (key : Key) :
    (spelled chosen key).isName = key.isName := by
  unfold spelled
  cases hfind : chosen.find? fun name => Key.name name.editor == key with
  | none => rfl
  | some name =>
      have hkey : Key.name name.editor = key := by simpa using List.find?_some hfind
      rw [← hkey]
      rfl

theorem Distinct.subset {names chosen : List Name} (hdistinct : Distinct names)
    (hchosen : chosen ⊆ names) : Distinct chosen where
  apart name hname other hother := hdistinct.apart name (hchosen hname) other (hchosen hother)
  same name hname other hother := hdistinct.same name (hchosen hname) other (hchosen hother)

theorem get?_eq_none_iff {entries : Entries} {text : String} :
    entries.get? text = none ↔ ∀ entry ∈ entries, entry.1 ≠ .name text := by
  simp [Entries.get?]

section

variable {chosen : List Name} {Inner : Key → Value → Value → Prop} {first second : Entries}

/-- The values under two keys go together if one key stands where the other stood. -/
theorem rel_get? (hentries : List.Forall₂
      (fun entry other => other.1 = spelled chosen entry.1 ∧ Inner entry.1 entry.2 other.2)
      first second) {text other : String}
    (hkeys : ∀ entry ∈ first, entry.1 = .name text ↔ spelled chosen entry.1 = .name other) :
    Option.Rel (Inner (.name text)) (first.get? text) (second.get? other) := by
  unfold Entries.get?
  -- Each of the two finds the first entry with its key, and these stand at the same place.
  induction hentries with
  | nil => exact .none
  | @cons entry another rest others hentry _ ih =>
      obtain ⟨hkey, hinner⟩ := hentry
      obtain ⟨hfirst, hrest⟩ := List.forall_mem_cons.mp hkeys
      rw [List.find?_cons, List.find?_cons, hkey]
      by_cases htext : entry.1 = .name text
      · rw [hfirst.mp htext, htext, beq_self_eq_true, beq_self_eq_true]
        exact .some (htext ▸ hinner)
      · rw [beq_false_of_ne htext, beq_false_of_ne (hfirst.not.mp htext)]
        exact ih hrest

variable (hrespelled : RespelledBy chosen Inner first second)
include hrespelled

theorem RespelledBy.get?_other {text : String} (htext : IsOther chosen text) :
    Option.Rel (Inner (.name text)) (first.get? text) (second.get? text) := by
  refine rel_get? hrespelled.entries fun entry _ => ⟨?_, fun hspelled => ?_⟩
  · intro hkey
    rw [spelled_other fun name hname h => (htext name hname).1 (Key.name.inj (h.trans hkey)), hkey]
  · rcases spelled_eq_name hspelled with ⟨hkey, -⟩ | ⟨name, hname, -, hlong⟩
    · exact hkey
    · exact absurd hlong (htext name hname).2

variable (hdistinct : Distinct chosen)
include hdistinct

theorem RespelledBy.get?_long {name : Name} (hname : name ∈ chosen) :
    Option.Rel (Inner (.name name.editor)) (first.get? name.editor) (second.get? name.long) := by
  refine rel_get? hrespelled.entries fun entry hmem => ⟨?_, fun hspelled => ?_⟩
  · intro hkey
    rw [hkey, spelled_editor hdistinct hname]
  · rcases spelled_eq_name hspelled with ⟨hkey, -⟩ | ⟨other, hother, hkey, hlong⟩
    · exact absurd hkey (get?_eq_none_iff.mp (hrespelled.unused name hname) entry hmem)
    · rw [hkey, (hdistinct.same other hother name hname).mpr hlong]

theorem RespelledBy.get?_editor {name : Name} (hname : name ∈ chosen) :
    second.get? name.editor = none := by
  refine get?_eq_none_iff.mpr fun other hother hkey => ?_
  obtain ⟨entry, -, hspelled, -⟩ := exists_left_of_forall₂ hrespelled.entries hother
  rcases spelled_eq_name (hspelled.symm.trans hkey) with ⟨-, hnone⟩ | ⟨another, hanother, -, hlong⟩
  · exact hnone name hname rfl
  · exact hdistinct.apart name hname another hanother hlong.symm

theorem RespelledBy.rel_given? {name : Name}
    (hname : IsField chosen name) :
    Option.Rel (fun given other => Inner (.name given.1) given.2 other.2)
      (given? first name) (given? second name) := by
  unfold Schema.given?
  rcases hname with hname | ⟨heditor, hlong⟩
  · have hrel := hrespelled.get?_long hdistinct hname
    rw [hrespelled.unused name hname, hrespelled.get?_editor hdistinct hname]
    generalize first.get? name.editor = value at hrel ⊢
    generalize second.get? name.long = other at hrel ⊢
    cases hrel with
    | none => exact .none
    | some hinner => exact .some hinner
  · have hrelEditor := hrespelled.get?_other heditor
    have hrelLong := hrespelled.get?_other hlong
    generalize first.get? name.editor = value at hrelEditor ⊢
    generalize second.get? name.editor = other at hrelEditor ⊢
    cases hrelEditor with
    | some hinner => exact .some hinner
    | none =>
        generalize first.get? name.long = value at hrelLong ⊢
        generalize second.get? name.long = other at hrelLong ⊢
        cases hrelLong with
        | none => exact .none
        | some hinner => exact .some hinner

end

theorem IsField.subset {names chosen : List Name} (hdistinct : Distinct names)
    (hchosen : chosen ⊆ names) {name : Name} (hname : IsField names name) :
    IsField chosen name := by
  rcases hname with hname | ⟨heditor, hlong⟩
  · by_cases hused : ∃ other ∈ chosen, other.editor = name.editor
    · obtain ⟨other, hother, heditor⟩ := hused
      have hlong := (hdistinct.same other (hchosen hother) name hname).mp heditor
      have hsame : other = name := by
        obtain ⟨_, _⟩ := other
        cases heditor
        cases hlong
        rfl
      exact .inl (hsame ▸ hother)
    · right
      refine ⟨fun other hother => ⟨fun heditor => hused ⟨other, hother, heditor⟩, ?_⟩,
        fun other hother => ⟨hdistinct.apart other (hchosen hother) name hname, fun hlong => ?_⟩⟩
      · exact (hdistinct.apart name hname other (hchosen hother)).symm
      · exact hused ⟨other, hother,
          (hdistinct.same other (hchosen hother) name hname).mpr hlong⟩
  · exact .inr ⟨fun other hother => heditor other (hchosen hother),
      fun other hother => hlong other (hchosen hother)⟩

/-- What is left over of two lists is the same if only what is dropped differs. -/
theorem filter_eq_of_forall₂ {α : Type} {test testOther : α → Bool} {items others : List α}
    (hall : List.Forall₂
      (fun item other => test item = testOther other ∧ (test item = false → item = other))
      items others) :
    items.filter (!test ·) = others.filter (!testOther ·) := by
  induction hall with
  | nil => rfl
  | @cons item other _ _ hfirst _ ih =>
      obtain ⟨htest, hsame⟩ := hfirst
      rw [List.filter_cons, List.filter_cons, ih, ← htest]
      cases hdropped : test item with
      | true => rfl
      | false => rw [hsame hdropped]

/-- A field is given in the entry. -/
def isTaken (entries : Entries) (fields : List Name) (entry : Key × Value) : Bool :=
  entry.1.isName &&
    (fields.filterMap fun field => (given? entries field).map (·.1)).contains entry.1.text

theorem isTaken_name {entries : Entries} {fields : List Name} {text : String} {value : Value} :
    isTaken entries fields (.name text, value) = true ↔
      ∃ field ∈ fields, (given? entries field).map Prod.fst = some text := by
  simp only [isTaken, Key.isName, Key.text, Bool.true_and, List.contains_iff_mem,
    List.mem_filterMap]

theorem get?_isSome_of_mem {entries : Entries} {text : String} {value : Value}
    (hmem : (Key.name text, value) ∈ entries) : ∃ found, entries.get? text = some found := by
  cases hget : entries.get? text with
  | none => exact absurd rfl (get?_eq_none_iff.mp hget _ hmem)
  | some found => exact ⟨found, rfl⟩

section

variable {chosen fields : List Name} {Inner : Key → Value → Value → Prop} {first second : Entries}
  (hrespelled : RespelledBy chosen Inner first second) (hdistinct : Distinct chosen)
include hrespelled

theorem RespelledBy.given?_fst {name : Name} (heditor : IsOther chosen name.editor)
    (hlong : IsOther chosen name.long) :
    (Schema.given? first name).map Prod.fst = (Schema.given? second name).map Prod.fst := by
  have hrelEditor := hrespelled.get?_other heditor
  have hrelLong := hrespelled.get?_other hlong
  unfold Schema.given?
  generalize first.get? name.editor = value at hrelEditor ⊢
  generalize second.get? name.editor = other at hrelEditor ⊢
  generalize first.get? name.long = value at hrelLong ⊢
  generalize second.get? name.long = other at hrelLong ⊢
  cases hrelEditor with
  | some => rfl
  | none =>
      cases hrelLong with
      | some => rfl
      | none => rfl

include hdistinct

/-- A chosen field is taken from its entry, whatever its name there. -/
theorem RespelledBy.isTaken_chosen {name : Name} (hname : name ∈ chosen) (hfield : name ∈ fields)
    {value other : Value} (hmem : (Key.name name.editor, value) ∈ first)
    (hother : (Key.name name.long, other) ∈ second) :
    isTaken first fields (.name name.editor, value) = true ∧
      isTaken second fields (.name name.long, other) = true := by
  obtain ⟨found, hfound⟩ := get?_isSome_of_mem hmem
  obtain ⟨another, hanother⟩ := get?_isSome_of_mem hother
  refine ⟨isTaken_name.mpr ⟨name, hfield, ?_⟩, isTaken_name.mpr ⟨name, hfield, ?_⟩⟩
  · simp [Schema.given?, hfound]
  · simp [Schema.given?, hanother, hrespelled.get?_editor hdistinct hname]

omit hdistinct in
theorem RespelledBy.isTaken_other (hfields : ∀ field ∈ fields, IsField chosen field)
    {text : String} (htext : IsOther chosen text) (value other : Value) :
    isTaken first fields (.name text, value) = isTaken second fields (.name text, other) := by
  rw [Bool.eq_iff_iff, isTaken_name, isTaken_name]
  refine exists_congr fun field => and_congr_right fun hmem => ?_
  rcases hfields field hmem with hfield | ⟨heditor, hlong⟩
  · have hnot (entries : Entries) : (given? entries field).map Prod.fst ≠ some text := by
      intro hgiven
      obtain ⟨given, hgiven, hused⟩ := Option.map_eq_some_iff.mp hgiven
      rcases (of_given? hgiven).1 with hname | hname
      · exact (htext field hfield).1 (hname.symm.trans hused)
      · exact (htext field hfield).2 (hname.symm.trans hused)
    exact ⟨fun h => absurd h (hnot first), fun h => absurd h (hnot second)⟩
  · rw [hrespelled.given?_fst heditor hlong]

/-- An entry is taken just when it is taken under its new key, and only what is taken has one. -/
theorem RespelledBy.isTaken_spelled (hnames : chosen ⊆ fields)
    (hfields : ∀ field ∈ fields, IsField chosen field) {key otherKey : Key} {value : Value}
    (hmem : (key, value) ∈ first) (hother : (otherKey, value) ∈ second)
    (hkey : otherKey = spelled chosen key) :
    isTaken first fields (key, value) = isTaken second fields (otherKey, value) ∧
      (isTaken first fields (key, value) = false → key = otherKey) := by
  by_cases hname : ∃ name ∈ chosen, Key.name name.editor = key
  · obtain ⟨name, hname, rfl⟩ := hname
    rw [spelled_editor hdistinct hname] at hkey
    subst hkey
    obtain ⟨htaken, hotherTaken⟩ :=
      hrespelled.isTaken_chosen hdistinct hname (hnames hname) hmem hother
    rw [htaken, hotherTaken]
    exact ⟨rfl, nofun⟩
  · rw [spelled_other fun name hmem heq => hname ⟨name, hmem, heq⟩] at hkey
    subst hkey
    refine ⟨?_, fun _ => rfl⟩
    cases otherKey with
    | other written => rfl
    | name text =>
        refine hrespelled.isTaken_other hfields (fun name hchosen => ⟨fun heq => ?_, ?_⟩) _ _
        · exact hname ⟨name, hchosen, congrArg Key.name heq⟩
        · rintro rfl
          exact get?_eq_none_iff.mp (hrespelled.unused name hchosen) _ hmem rfl

end

section

variable {α β : Type} {R : α → β → Prop} {names : List Name} {Inner : Key → Value → Value → Prop}
  {first second : Entries} (hrespelled : Respelled names Inner first second)
include hrespelled

theorem Respelled.rel_given? {name : Name} (hdistinct : Distinct names)
    (hname : IsField names name) :
    Option.Rel (fun given other => Inner (.name given.1) given.2 other.2)
      (given? first name) (given? second name) := by
  obtain ⟨chosen, hchosen, hrespelled⟩ := hrespelled
  exact hrespelled.rel_given? (hdistinct.subset hchosen) (hname.subset hdistinct hchosen)

omit hrespelled in
/-- Where the keys stay, values may change as they may. -/
theorem respelled_of_same_keys (hentries : List.Forall₂
      (fun entry other => other.1 = entry.1 ∧ Inner entry.1 entry.2 other.2) first second) :
    Respelled names Inner first second :=
  ⟨[], List.nil_subset names, hentries, nofun⟩

omit hrespelled in
/-- Without fields that have two names, all keys stay. -/
theorem respelled_nil_iff : Respelled [] Inner first second ↔
    List.Forall₂ (fun entry other => other.1 = entry.1 ∧ Inner entry.1 entry.2 other.2)
      first second := by
  constructor
  · rintro ⟨chosen, hchosen, hentries, -⟩
    cases List.subset_nil.mp hchosen
    exact hentries
  · exact respelled_of_same_keys

theorem Respelled.rel_get? {text : String} (htext : IsOther names text) :
    Option.Rel (Inner (.name text)) (first.get? text) (second.get? text) := by
  obtain ⟨chosen, hchosen, hrespelled⟩ := hrespelled
  exact hrespelled.get?_other fun name hname => htext name (hchosen hname)

theorem Respelled.optional_alike {name : Name} (hdistinct : Distinct names)
    (hname : IsField names name) {default : α} {defaultOther : β} (hdefault : R default defaultOther)
    {read : Value → Reading α} {readOther : Value → Reading β}
    (hread : ∀ used, used = name.editor ∨ used = name.long → ∀ value other,
      Inner (.name used) value other → Alike R (read value) (readOther other)) :
    Alike R (optional first name default read) (optional second name defaultOther readOther) :=
  Schema.optional_alike (rel_of_eq_some (hrespelled.rel_given? hdistinct hname)
    fun _ _ hgiven _ => hread _ (of_given? hgiven).1 _ _) fun _ _ => hdefault

theorem Respelled.optional_same {name : Name} (hdistinct : Distinct names)
    (hname : IsField names name)
    (hsame : ∀ used, used = name.editor ∨ used = name.long → ∀ value other,
      Inner (.name used) value other → value = other)
    (default : α) (read : Value → Reading α) :
    Alike Eq (optional first name default read) (optional second name default read) :=
  hrespelled.optional_alike hdistinct hname rfl fun used hused value other hinner =>
    hsame used hused value other hinner ▸ .refl (read value)

omit hrespelled in
theorem Respelled.field_alike {fields : List (String × (Value → Value → Prop))}
    (hrespelled : Respelled names (Within fields) first second) (hdistinct : Distinct names)
    {name : Name} (hname : IsField names name)
    (hfields : ∀ field ∈ fields, field.1 ≠ name.editor ∧ field.1 ≠ name.long)
    (default : α) (read : Value → Reading α) :
    Alike Eq (Schema.optional first name default read)
      (Schema.optional second name default read) :=
  hrespelled.optional_same hdistinct hname (fun used hused value other hwithin =>
    within_other (fun field hfield => by
      rcases hused with rfl | rfl
      · exact (hfields field hfield).1
      · exact (hfields field hfield).2) hwithin) default read

omit hrespelled in
theorem Respelled.refl (hinner : ∀ key value, Inner key value value) (entries : Entries) :
    Respelled names Inner entries entries :=
  respelled_of_same_keys (List.forall₂_same.mpr fun entry _ => ⟨rfl, hinner entry.1 entry.2⟩)

omit hrespelled in
theorem respelled_map_spelled {chosen : List Name} (hchosen : chosen ⊆ names)
    (hinner : ∀ key value, Inner key value value) {entries : Entries}
    (hunused : ∀ name ∈ chosen, entries.get? name.long = none) :
    Respelled names Inner entries
      (entries.map fun entry => (spelled chosen entry.1, entry.2)) :=
  ⟨chosen, hchosen, List.forall₂_map_right_iff.mpr
    (List.forall₂_same.mpr fun entry _ => ⟨rfl, hinner entry.1 entry.2⟩), hunused⟩

theorem Respelled.reverse : Respelled names Inner first.reverse second.reverse := by
  obtain ⟨chosen, hchosen, hentries, hunused⟩ := hrespelled
  refine ⟨chosen, hchosen, List.rel_reverse hentries, fun name hname => ?_⟩
  rw [get?_eq_none_iff]
  exact fun entry hmem => get?_eq_none_iff.mp (hunused name hname) entry (List.mem_reverse.mp hmem)

theorem Respelled.all_isName :
    (first.all fun entry => entry.1.isName) = second.all fun entry => entry.1.isName := by
  obtain ⟨chosen, -, hentries, -⟩ := hrespelled
  induction hentries with
  | nil => rfl
  | cons hentry _ ih => rw [List.all_cons, List.all_cons, ih, hentry.1, spelled_isName]

/-- Fields taken under another name leave the same entries over. -/
theorem Respelled.spare_eq {fields : List Name} (hdistinct : Distinct names)
    (hnames : names ⊆ fields) (hfields : ∀ field ∈ fields, IsField names field)
    (hinner : ∀ key value other, Inner key value other → value = other) :
    spare first fields = spare second fields := by
  obtain ⟨chosen, hchosen, hrespelled⟩ := hrespelled
  have hentries : List.Forall₂
      (fun entry other => isTaken first fields entry = isTaken second fields other ∧
        (isTaken first fields entry = false → entry = other)) first second := by
    obtain ⟨hlength, hzip⟩ := List.forall₂_iff_zip.mp hrespelled.entries
    refine List.forall₂_iff_zip.mpr ⟨hlength, fun {entry other} hpair => ?_⟩
    obtain ⟨hmem, hother⟩ := List.of_mem_zip hpair
    obtain ⟨hkey, hvalue⟩ := hzip hpair
    obtain ⟨key, value⟩ := entry
    obtain ⟨otherKey, _⟩ := other
    cases hinner _ _ _ hvalue
    obtain ⟨htaken, hkept⟩ := hrespelled.isTaken_spelled (hdistinct.subset hchosen)
      (fun name hname => hnames (hchosen hname))
      (fun field hfield => (hfields field hfield).subset hdistinct hchosen) hmem hother hkey
    exact ⟨htaken, fun hnot => by rw [hkept hnot]⟩
  exact filter_eq_of_forall₂ hentries

theorem Respelled.onlyNames_alike : Alike Eq (onlyNames first) (onlyNames second) := by
  have hall := hrespelled.all_isName
  rw [← accepted_onlyNames, ← accepted_onlyNames] at hall
  exact .of_accepted hall fun _ _ _ _ => rfl

end

end Schema

end ScreenFlow
