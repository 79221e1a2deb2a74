import ScreenFlow.Screen.Block
import Mathlib.Tactic.SplitIfs

/-!
Payloads that cannot be read.  Whatever is wrong with a payload is an issue of its block, except for
one thing: a timeout without end cannot be cut to a whole number, and that ends the reading.
-/

namespace ScreenFlow

namespace Reading

variable {α β : Type}

@[simp] theorem both_eq_overflow_iff {first : Reading α} {second : Reading β} :
    both first second = overflow ↔ first = overflow ∨ second = overflow := by
  cases first <;> cases second <;> simp [both]

@[simp] theorem map_eq_overflow_iff {f : α → β} {reading : Reading α} :
    reading.map f = overflow ↔ reading = overflow := by
  cases reading <;> simp [map]

@[simp] theorem functor_map_eq_overflow_iff {f : α → β} {reading : Reading α} :
    f <$> reading = overflow ↔ reading = overflow :=
  map_eq_overflow_iff

@[simp] theorem seq_eq_overflow_iff {f : Reading (α → β)} {reading : Reading α} :
    f <*> reading = overflow ↔ f = overflow ∨ reading = overflow :=
  map_eq_overflow_iff.trans both_eq_overflow_iff

@[simp] theorem seqLeft_eq_overflow_iff {first : Reading α} {second : Reading β} :
    first <* second = overflow ↔ first = overflow ∨ second = overflow :=
  seq_eq_overflow_iff.trans (or_congr_left functor_map_eq_overflow_iff)

@[simp] theorem inside_eq_overflow_iff {place : Place} {reading : Reading α} :
    reading.inside place = overflow ↔ reading = overflow := by
  cases reading <;> simp [inside]

@[simp] theorem fault_ne_overflow (kind : Fault) : (fault kind : Reading α) ≠ overflow := by
  simp [fault]

theorem each_ne_overflow {read : Value → Reading α} (hread : ∀ value, read value ≠ overflow)
    (items : List Value) : each read items ≠ overflow := by
  have hgo (position : Nat) : each.go read position items ≠ overflow := by
    induction items generalizing position with
    | nil => simp [each.go]
    | cons item rest ih => simp [each.go, hread, ih]
  exact hgo 0

end Reading

namespace Schema

variable {α : Type}

@[simp] theorem string_ne_overflow (value : Value) : string value ≠ .overflow := by
  unfold string
  split <;> simp

@[simp] theorem optionalString_ne_overflow (value : Value) : optionalString value ≠ .overflow := by
  unfold optionalString
  split <;> simp

@[simp] theorem stringOrNone_ne_overflow (value : Value) : stringOrNone value ≠ .overflow := by
  unfold stringOrNone
  split <;> simp

@[simp] theorem any_ne_overflow (value : Value) : any value ≠ .overflow := by
  simp [any]

@[simp] theorem bool_ne_overflow (value : Value) : bool value ≠ .overflow := by
  unfold bool
  repeat' split
  all_goals simp

@[simp] theorem namedValues_ne_overflow (value : Value) : namedValues value ≠ .overflow := by
  have hentries (entries : Entries) : mapOf.go any entries ≠ .overflow := by
    induction entries with
    | nil => simp [mapOf.go]
    | cons entry rest ih =>
        obtain ⟨key, value⟩ := entry
        cases key <;> simp [mapOf.go, entryOf, ih]
  unfold namedValues mapOf
  split
  · exact hentries _
  · simp

@[simp] theorem onlyNames_ne_overflow (entries : Entries) : onlyNames entries ≠ .overflow := by
  unfold onlyNames
  split <;> simp

@[simp] theorem optional_ne_overflow {read : Value → Reading α}
    (hread : ∀ value, read value ≠ .overflow) (entries : Entries) (name : Name) (default : α) :
    optional entries name default read ≠ .overflow := by
  unfold optional
  split <;> simp [hread]

@[simp] theorem listOrEmpty_ne_overflow {read : Value → Reading α}
    (hread : ∀ value, read value ≠ .overflow) (value : Value) :
    listOrEmpty read value ≠ .overflow :=
  Reading.each_ne_overflow hread _

@[simp] theorem recordsOnly_ne_overflow {read : Value → Reading α}
    (hread : ∀ value, read value ≠ .overflow) (value : Value) :
    recordsOnly read value ≠ .overflow :=
  Reading.each_ne_overflow hread _

end Schema

/-! Payloads. -/

namespace UiChecks

end UiChecks

namespace Block

variable {α : Type}

theorem get?_namedMap (data : List (String × Value)) (name : String) :
    Entries.get? (data.map fun pair => (Key.name pair.1, pair.2)) name = data.lookup name := by
  induction data with
  | nil => rfl
  | cons pair rest ih =>
      obtain ⟨key, value⟩ := pair
      by_cases hkey : name = key
      · simp [Entries.get?, hkey]
      · have hother : (Key.name key == Key.name name) = false := by simpa using Ne.symm hkey
        simp only [List.map_cons, Entries.get?, List.find?_cons, hother, List.lookup_cons,
          beq_eq_false_iff_ne.mpr hkey] at ih ⊢
        exact ih

end Block

end ScreenFlow
