import ScreenFlow.Text.Blank
import Mathlib.Data.List.DropRight

/-!
What trimming leaves.  A text without blanks at its ends is left as it is, and trimming twice is
trimming once.
-/

namespace ScreenFlow

namespace Text

theorem trimRight_eq_rdropWhile (text : List Char) : trimRight text = text.rdropWhile isBlank :=
  rfl

theorem trim_eq_self {text : List Char} (hfirst : ∀ c, text.head? = some c → isBlank c = false)
    (hlast : ∀ hne : text ≠ [], isBlank (text.getLast hne) = false) : trim text = text := by
  have hleft : trimLeft text = text := by
    cases text with
    | nil => rfl
    | cons c rest => simp [trimLeft, hfirst c rfl]
  rw [trim, hleft, trimRight_eq_rdropWhile, List.rdropWhile_eq_self_iff]
  intro hne
  simp [hlast hne]

theorem head?_trimLeft (text : List Char) (c : Char) (hhead : (trimLeft text).head? = some c) :
    isBlank c = false := by
  have hnot := List.head?_dropWhile_not isBlank text
  rw [← trimLeft, hhead] at hnot
  simpa using hnot

theorem head?_trim (text : List Char) (c : Char) (hhead : (trim text).head? = some c) :
    isBlank c = false := by
  obtain ⟨rest, hrest⟩ := List.rdropWhile_prefix isBlank (l := trimLeft text)
  apply head?_trimLeft text c
  rw [← hrest, List.head?_append, ← trimRight_eq_rdropWhile, ← trim, hhead]
  rfl

@[simp] theorem trim_trim (text : List Char) : trim (trim text) = trim text := by
  apply trim_eq_self
  · exact head?_trim text
  · intro hne
    exact Bool.eq_false_iff.mpr (List.rdropWhile_last_not isBlank (trimLeft text) hne)

theorem length_trim_le (text : List Char) : (trim text).length ≤ text.length := by
  have hright := (List.rdropWhile_prefix isBlank (l := trimLeft text)).length_le
  have hleft := (List.dropWhile_sublist isBlank (l := text)).length_le
  exact hright.trans hleft

theorem trim_eq_nil_of_trimLeft {text : List Char} (hblank : trimLeft text = []) :
    trim text = [] := by
  rw [trim, hblank]
  rfl

theorem trimLeft_append {left : List Char} (hblank : ∀ c ∈ left, isBlank c = true)
    (text : List Char) : trimLeft (left ++ text) = trimLeft text :=
  List.dropWhile_append_of_pos hblank

theorem trimRight_append {right : List Char} (hblank : ∀ c ∈ right, isBlank c = true)
    (text : List Char) : trimRight (text ++ right) = trimRight text := by
  have hreverse : ∀ c ∈ right.reverse, isBlank c = true := by simpa using hblank
  unfold trimRight
  rw [List.reverse_append, List.dropWhile_append_of_pos hreverse]

/-- Blanks around a text do not count. -/
theorem trim_append {left right : List Char} (hleft : ∀ c ∈ left, isBlank c = true)
    (hright : ∀ c ∈ right, isBlank c = true) (text : List Char) :
    trim (left ++ text ++ right) = trim text := by
  rw [trim, List.append_assoc, trimLeft_append hleft, trimLeft, List.dropWhile_append]
  split
  · next hnone =>
      have htext : trimLeft text = [] := List.isEmpty_iff.mp hnone
      have hall : right.dropWhile isBlank = [] := List.dropWhile_eq_nil_iff.mpr hright
      rw [hall, trim_eq_nil_of_trimLeft htext]
      rfl
  · exact trimRight_append hright _

/-- A text is what trimming leaves of it, with blanks around. -/
theorem exists_of_trim (text : List Char) :
    ∃ left right, text = left ++ trim text ++ right ∧ (∀ c ∈ left, isBlank c = true) ∧
      ∀ c ∈ right, isBlank c = true := by
  have hleft := List.takeWhile_append_dropWhile (p := isBlank) (l := text)
  have hright : (trimLeft text).rdropWhile isBlank ++ (trimLeft text).rtakeWhile isBlank =
      trimLeft text := List.rdropWhile_append_rtakeWhile
  refine ⟨text.takeWhile isBlank, (trimLeft text).rtakeWhile isBlank, ?_, ?_, ?_⟩
  · rw [trim, trimRight_eq_rdropWhile, List.append_assoc, hright]
    exact hleft.symm
  · intro c hmem
    exact List.mem_takeWhile_imp hmem
  · intro c hmem
    exact List.mem_rtakeWhile_imp hmem

/-- Trimming keeps a first character that is no blank. -/
theorem head?_trim_of_head? {text : List Char} {c : Char} (hhead : text.head? = some c)
    (hblank : isBlank c = false) : (trim text).head? = some c := by
  obtain ⟨left, right, htext, hleft, hright⟩ := exists_of_trim text
  have hnot {around : List Char} (hall : ∀ d ∈ around, isBlank d = true) :
      around.head? ≠ some c := by
    intro haround
    rw [hall c (List.mem_of_mem_head? haround)] at hblank
    cases hblank
  rw [htext, List.head?_append, List.head?_append, Option.or_eq_some_iff,
    Option.or_eq_some_iff] at hhead
  rcases hhead with (hfirst | ⟨-, hkept⟩) | ⟨-, hlast⟩
  · exact absurd hfirst (hnot hleft)
  · exact hkept
  · exact absurd hlast (hnot hright)

theorem trim_eq_nil_iff {text : List Char} : trim text = [] ↔ ∀ c ∈ text, isBlank c = true := by
  constructor
  · intro hnone c hmem
    obtain ⟨left, right, htext, hleft, hright⟩ := exists_of_trim text
    rw [htext, hnone, List.append_nil] at hmem
    rcases List.mem_append.mp hmem with hmem | hmem
    · exact hleft c hmem
    · exact hright c hmem
  · intro hblank
    exact trim_eq_nil_of_trimLeft (List.dropWhile_eq_nil_iff.mpr hblank)

end Text

@[simp] theorem toList_trimmed (text : String) : (trimmed text).toList = Text.trim text.toList := by
  simp [trimmed]

end ScreenFlow
