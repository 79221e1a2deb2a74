import ScreenFlow.Proofs.Project.Listing
import ScreenFlow.Proofs.Project.Path

/-!
Names that are searched for at any depth.  The file name that a name makes with an ending can be
read as a pattern exactly when the name itself is searchable; where it holds no sign of a pattern,
what is found ends in the components of the file name.
-/

namespace ScreenFlow

namespace Text

/-- An ending without the separator goes to the last piece. -/
theorem splitOn_append {separator : Char} {ending : List Char} (hending : separator ∉ ending)
    (text : List Char) :
    splitOn separator (text ++ ending) = (splitOn separator text).dropLast ++
      [(splitOn separator text).getLast (splitOn_ne_nil separator text) ++ ending] := by
  induction text with
  | nil => exact splitOn_of_not_mem hending
  | cons c rest ih =>
      cases hpieces : splitOn separator rest with
      | nil => exact absurd hpieces (splitOn_ne_nil separator rest)
      | cons first others =>
          simp only [hpieces] at ih
          by_cases hc : c = separator
          · simp [splitOn, hc, hpieces, ih]
          · cases others with
            | nil => simp [splitOn, hc, hpieces, ih]
            | cons second more => simp [splitOn, hc, hpieces, ih]

end Text

namespace Path

end Path

namespace Glob

/-- The name stands for itself in a pattern. -/
def Plain (name : String) : Prop :=
  ∀ c ∈ name.toList, isWild c = false

/-- An ending of file names: it stays in the component it is put to and is no part of a pattern. -/
structure IsEnding (ending : String) : Prop where
  long : 2 < ending.toList.length
  noSlash : '/' ∉ ending.toList
  plain : ∀ c ∈ ending.toList, isWild c = false

section

variable {ending : String} (hending : IsEnding ending)
include hending

theorem IsEnding.append_ne {text : String} (htext : text.toList.length ≤ 2) (name : String) :
    name ++ ending ≠ text := by
  rintro rfl
  have hlong := hending.long
  rw [String.toList_append, List.length_append] at htext
  omega

theorem IsEnding.append_counts (name : String) :
    (name ++ ending != "" && name ++ ending != ".") = true := by
  rw [Bool.and_eq_true, bne_iff_ne, bne_iff_ne]
  exact ⟨hending.append_ne (by decide) name, hending.append_ne (by decide) name⟩

theorem IsEnding.filter_append (name : String) :
    [name ++ ending].filter (fun part => part != "" && part != ".") = [name ++ ending] :=
  List.filter_cons_of_pos (hending.append_counts name)

/-- The last component ends as the text does. -/
theorem IsEnding.parts_getLast? (name : String) :
    ∃ front, (Path.parse (name ++ ending)).parts.getLast? = some (front ++ ending) := by
  have hsplit := Text.splitOn_append hending.noSlash name.toList
  rw [← String.toList_append] at hsplit
  refine ⟨String.ofList ((Text.splitOn '/' name.toList).getLast
    (Text.splitOn_ne_nil '/' name.toList)), ?_⟩
  change (List.filter _ ((Text.splitOn '/' (name ++ ending).toList).map String.ofList)).getLast? = _
  rw [hsplit, List.map_append, List.filter_append, List.map_singleton, String.ofList_append,
    String.ofList_toList, hending.filter_append, List.getLast?_concat]

theorem IsEnding.parts_ne_nil (name : String) : (Path.parse (name ++ ending)).parts ≠ [] := by
  obtain ⟨front, hlast⟩ := hending.parts_getLast? name
  exact List.ne_nil_of_mem (List.mem_of_getLast? hlast)

end

end Glob

end ScreenFlow
