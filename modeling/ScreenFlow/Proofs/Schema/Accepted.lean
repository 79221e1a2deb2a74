import ScreenFlow.Schema

/-!
Which data a reading accepts.  Reading is collected from parts, so that the whole is accepted
exactly when every part is: each combinator of the schema becomes a conjunction.
-/

namespace ScreenFlow

namespace Reading

variable {α β : Type}

/-- The reading gives a value. -/
def accepted (reading : Reading α) : Bool :=
  reading.result?.isSome

@[simp] theorem accepted_map (f : α → β) (reading : Reading α) :
    (reading.map f).accepted = reading.accepted := by
  cases reading <;> rfl

@[simp] theorem accepted_both (first : Reading α) (second : Reading β) :
    (both first second).accepted = (first.accepted && second.accepted) := by
  cases first <;> cases second <;> rfl

@[simp] theorem accepted_functor_map (f : α → β) (reading : Reading α) :
    (f <$> reading).accepted = reading.accepted :=
  accepted_map f reading

@[simp] theorem accepted_seq (f : Reading (α → β)) (reading : Reading α) :
    (f <*> reading).accepted = (f.accepted && reading.accepted) :=
  (accepted_map _ _).trans (accepted_both f reading)

@[simp] theorem accepted_seqLeft (first : Reading α) (second : Reading β) :
    (first <* second).accepted = (first.accepted && second.accepted) := by
  cases first <;> cases second <;> rfl

@[simp] theorem accepted_inside (place : Place) (reading : Reading α) :
    (reading.inside place).accepted = reading.accepted := by
  cases reading <;> rfl

theorem accepted_each (read : Value → Reading α) (items : List Value) :
    (each read items).accepted = items.all fun item => (read item).accepted := by
  unfold each
  generalize 0 = position
  induction items generalizing position with
  | nil => rfl
  | cons item rest ih =>
      unfold each.go
      rw [accepted_map, accepted_both, accepted_inside, ih, List.all_cons]

end Reading

namespace Schema

variable {α : Type}

theorem accepted_string (value : Value) : (string value).accepted = value.isString := by
  unfold string Value.isString
  cases value.string? <;> rfl

theorem accepted_bool_of_string? {value : Value} {text : String}
    (htext : value.string? = some text) :
    (bool value).accepted = (boolOfWord? (lowerText text)).isSome := by
  cases hword : boolOfWord? (lowerText text) <;> cases value <;> cases htext <;>
    · unfold bool
      simp only [Value.string?, hword]
      rfl

theorem accepted_listOrEmpty (read : Value → Reading α) (value : Value) :
    (listOrEmpty read value).accepted =
      value.listOrEmpty.all fun item => (read item).accepted :=
  Reading.accepted_each read value.listOrEmpty

theorem accepted_recordsOnly (read : Value → Reading α) (value : Value) :
    (recordsOnly read value).accepted =
      value.listOrEmpty.all fun item => !item.isMap || (read item).accepted :=
  (Reading.accepted_each read value.mapsOnly).trans List.all_filter

theorem accepted_mapOf (read : Value → Reading α) (entries : Entries) :
    (mapOf read (.map entries)).accepted =
      entries.all fun entry => entry.1.isName && (read entry.2).accepted := by
  unfold mapOf
  dsimp only
  induction entries with
  | nil => rfl
  | cons entry rest ih =>
      obtain ⟨key, value⟩ := entry
      unfold mapOf.go entryOf
      rw [Reading.accepted_map, Reading.accepted_both, ih, List.all_cons, Reading.accepted_both,
        Reading.accepted_inside]
      cases key <;> rfl

theorem accepted_optional (entries : Entries) (name : Name) (default : α)
    (read : Value → Reading α) :
    (optional entries name default read).accepted =
      (given? entries name).all fun given => (read given.2).accepted := by
  unfold optional
  cases given? entries name with
  | none => rfl
  | some given => exact Reading.accepted_inside _ _

theorem accepted_required (entries : Entries) (name : Name) (read : Value → Reading α) :
    (required entries name read).accepted =
      (given? entries name).any fun given => (read given.2).accepted := by
  unfold required
  cases given? entries name with
  | none => rfl
  | some given => exact Reading.accepted_inside _ _

theorem accepted_onlyNames (entries : Entries) :
    (onlyNames entries).accepted = entries.all fun entry => entry.1.isName := by
  unfold onlyNames
  induction entries with
  | nil => rfl
  | cons entry rest ih =>
      rw [List.filter_cons, List.all_cons]
      cases entry.1.isName with
      | true => exact ih
      | false => rfl

theorem accepted_record (read : Entries → Reading α) (value : Value) :
    (record read value).accepted = value.entries?.any fun entries => (read entries).accepted := by
  cases value <;> rfl

end Schema

end ScreenFlow
