import ScreenFlow.Proofs.Schema.Alike

/-!
What a reading that gives a value has read.  The value is put together from the values of the parts,
so that each combinator of the schema becomes a conjunction, or a relation between two lists.
-/

namespace ScreenFlow

namespace Reading

variable {α β : Type}

theorem map_eq_value_iff {f : α → β} {reading : Reading α} {b : β} :
    reading.map f = value b ↔ ∃ a, reading = value a ∧ f a = b := by
  cases reading <;> simp [map]

theorem functor_map_eq_value_iff {f : α → β} {reading : Reading α} {b : β} :
    f <$> reading = value b ↔ ∃ a, reading = value a ∧ f a = b :=
  map_eq_value_iff

theorem seq_eq_value_iff {f : Reading (α → β)} {reading : Reading α} {b : β} :
    f <*> reading = value b ↔ ∃ g, f = value g ∧ ∃ a, reading = value a ∧ g a = b := by
  refine map_eq_value_iff.trans ⟨?_, ?_⟩
  · rintro ⟨⟨g, a⟩, hboth, happlied⟩
    obtain ⟨hf, hreading⟩ := both_eq_value_iff.mp hboth
    exact ⟨g, hf, a, hreading, happlied⟩
  · rintro ⟨g, hf, a, hreading, happlied⟩
    exact ⟨(g, a), both_eq_value_iff.mpr ⟨hf, hreading⟩, happlied⟩

theorem seqLeft_eq_value_iff {first : Reading α} {second : Reading β} {a : α} :
    first <* second = value a ↔ first = value a ∧ ∃ b, second = value b := by
  refine seq_eq_value_iff.trans ⟨?_, ?_⟩
  · rintro ⟨g, hfirst, b, hsecond, happlied⟩
    obtain ⟨c, hvalue, rfl⟩ := functor_map_eq_value_iff.mp hfirst
    cases happlied
    exact ⟨hvalue, b, hsecond⟩
  · rintro ⟨hfirst, b, hsecond⟩
    exact ⟨Function.const β a, functor_map_eq_value_iff.mpr ⟨a, hfirst, rfl⟩, b, hsecond, rfl⟩

theorem inside_eq_value_iff {place : Place} {reading : Reading α} {a : α} :
    reading.inside place = value a ↔ reading = value a := by
  cases reading <;> simp [inside]

/-- The results of a list are those of its items, one for each. -/
theorem each_eq_value_iff {read : Value → Reading α} {items : List Value} {results : List α} :
    each read items = value results ↔
      List.Forall₂ (fun item result => read item = value result) items results := by
  unfold each
  generalize 0 = position
  induction items generalizing position results with
  | nil => simp [each.go, List.forall₂_nil_left_iff, eq_comm]
  | cons item rest ih =>
      rw [each.go, map_eq_value_iff, List.forall₂_cons_left_iff]
      constructor
      · rintro ⟨⟨first, others⟩, hboth, rfl⟩
        obtain ⟨hfirst, hothers⟩ := both_eq_value_iff.mp hboth
        exact ⟨first, others, inside_eq_value_iff.mp hfirst, (ih _).mp hothers, rfl⟩
      · rintro ⟨first, others, hfirst, hothers, rfl⟩
        exact ⟨(first, others),
          both_eq_value_iff.mpr ⟨inside_eq_value_iff.mpr hfirst, (ih _).mpr hothers⟩, rfl⟩

end Reading

namespace Schema

open Reading

variable {α : Type}

theorem record_eq_value_iff {read : Entries → Reading α} {value : Value} {a : α} :
    record read value = .value a ↔ ∃ entries, value = .map entries ∧ read entries = .value a := by
  cases value <;> simp [record, Reading.fault]

theorem required_eq_value_iff {entries : Entries} {name : Name} {read : Value → Reading α}
    {a : α} :
    required entries name read = .value a ↔
      ∃ given ∈ given? entries name, read given.2 = .value a := by
  unfold required
  cases given? entries name with
  | none => simp
  | some given => simp [inside_eq_value_iff]

theorem optional_eq_value_iff {entries : Entries} {name : Name} {default : α}
    {read : Value → Reading α} {a : α} :
    optional entries name default read = .value a ↔
      given? entries name = none ∧ default = a ∨
        ∃ given ∈ given? entries name, read given.2 = .value a := by
  unfold optional
  cases given? entries name with
  | none => simp
  | some given => simp [inside_eq_value_iff]

theorem optional_same_eq_value_iff {entries : Entries} {field : String} {default a : α}
    {read : Value → Reading α} :
    optional entries (.same field) default read = .value a ↔
      Entries.get? entries field = none ∧ default = a ∨
        ∃ value, Entries.get? entries field = some value ∧ read value = .value a := by
  rw [optional_eq_value_iff, given?_same]
  simp

theorem required_same_eq_value_iff {entries : Entries} {field : String} {a : α}
    {read : Value → Reading α} :
    required entries (.same field) read = .value a ↔
      ∃ value, Entries.get? entries field = some value ∧ read value = .value a := by
  rw [required_eq_value_iff, given?_same]
  simp

theorem string_eq_value_iff {value : Value} {text : String} :
    string value = .value text ↔ value.string? = some text := by
  unfold string
  cases value.string? <;> simp [Reading.fault]

theorem optionalString_eq_some_iff {value : Value} {text : String} :
    optionalString value = .value (some text) ↔ value.string? = some text := by
  unfold optionalString
  split
  · simp [Value.string?]
  · simp [map_eq_value_iff, string_eq_value_iff]

theorem optionalString_eq_none_iff {value : Value} :
    optionalString value = .value none ↔ value = .null := by
  unfold optionalString
  split
  · simp
  · next hnull => exact iff_of_false (by simp [map_eq_value_iff]) hnull

/-- What is read as a text, where a placeholder counts as none, is no placeholder. -/
theorem stringOrNone_eq_some_iff {value : Value} {text : String} :
    stringOrNone value = .value (some text) ↔
      value.string? = some text ∧ value.isPlaceholder = false := by
  unfold stringOrNone
  split
  · next hplaceholder => simp [hplaceholder]
  · next hplaceholder => simp [optionalString_eq_some_iff, hplaceholder]

theorem stringOrNone_eq_none_iff {value : Value} :
    stringOrNone value = .value none ↔ value = .null ∨ value.isPlaceholder = true := by
  unfold stringOrNone
  split
  · next hplaceholder => simp [hplaceholder]
  · next hplaceholder => simp [optionalString_eq_none_iff, hplaceholder]

/-- The names and values of a map are those of its entries, one for each. -/
theorem mapOf_eq_value_iff {read : Value → Reading α} {entries : Entries}
    {pairs : List (String × α)} :
    mapOf read (.map entries) = .value pairs ↔
      List.Forall₂ (fun entry pair => entry.1 = .name pair.1 ∧ read entry.2 = .value pair.2)
        entries pairs := by
  change mapOf.go read entries = .value pairs ↔ _
  induction entries generalizing pairs with
  | nil => simp [mapOf.go, List.forall₂_nil_left_iff, eq_comm]
  | cons entry rest ih =>
      have hentry (pair : String × α) : entryOf read entry.1 entry.2 = .value pair ↔
          entry.1 = .name pair.1 ∧ read entry.2 = .value pair.2 := by
        unfold entryOf
        rw [both_eq_value_iff, inside_eq_value_iff]
        cases entry.1 <;> simp
      rw [mapOf.go, map_eq_value_iff, List.forall₂_cons_left_iff]
      constructor
      · rintro ⟨⟨first, others⟩, hboth, rfl⟩
        obtain ⟨hfirst, hothers⟩ := both_eq_value_iff.mp hboth
        exact ⟨first, others, (hentry first).mp hfirst, ih.mp hothers, rfl⟩
      · rintro ⟨first, others, hfirst, hothers, rfl⟩
        exact ⟨(first, others), both_eq_value_iff.mpr ⟨(hentry first).mpr hfirst, ih.mpr hothers⟩,
          rfl⟩

end Schema

end ScreenFlow
