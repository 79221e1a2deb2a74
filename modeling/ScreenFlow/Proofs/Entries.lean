import ScreenFlow.Value
import Mathlib.Data.List.Induction

/-!
Maps made of pairs.  Each key stands where it was first written, with the value that was written last.
-/

namespace ScreenFlow

theorem mem_of_lookup_eq_some {κ ν : Type} [BEq κ] [LawfulBEq κ] {entries : List (κ × ν)}
    {key : κ} {value : ν} (hlookup : entries.lookup key = some value) : (key, value) ∈ entries := by
  obtain ⟨before, after, rfl, -⟩ := List.lookup_eq_some_iff.mp hlookup
  exact List.mem_append_right _ List.mem_cons_self

theorem lookup_eq_some_iff_mem {κ ν : Type} [BEq κ] [LawfulBEq κ] {entries : List (κ × ν)}
    (hnodup : (entries.map Prod.fst).Nodup) {key : κ} {value : ν} :
    entries.lookup key = some value ↔ (key, value) ∈ entries := by
  refine ⟨mem_of_lookup_eq_some, fun hmem => ?_⟩
  obtain ⟨front, back, rfl⟩ := List.mem_iff_append.mp hmem
  refine List.lookup_eq_some_iff.mpr ⟨front, back, rfl, fun entry hentry => ?_⟩
  rw [List.map_append, List.map_cons, List.nodup_append] at hnodup
  exact bne_iff_ne.mpr (hnodup.2.2 entry.1 (List.mem_map_of_mem hentry) key
    List.mem_cons_self).symm

theorem eraseDups_concat {α : Type} [BEq α] [LawfulBEq α] (items : List α) (item : α) :
    (items ++ [item]).eraseDups =
      if item ∈ items.eraseDups then items.eraseDups else items.eraseDups ++ [item] := by
  rw [List.eraseDups_append]
  by_cases hknown : item ∈ items
  · simp [List.removeAll, hknown]
  · simp [List.removeAll, hknown, List.eraseDups_cons]

namespace Entries

theorem ofPairs_concat (pairs : List (Key × Value)) (pair : Key × Value) :
    ofPairs (pairs ++ [pair]) = (ofPairs pairs).put pair.1 pair.2 := by
  simp [ofPairs, List.foldl_append]

theorem get?_put_of_ne {key : Key} {name : String} (hne : key ≠ .name name) (entries : Entries)
    (value : Value) : (entries.put key value).get? name = entries.get? name := by
  induction entries with
  | nil => simp [put, get?, hne]
  | cons entry rest ih =>
      obtain ⟨known, old⟩ := entry
      by_cases hknown : known = key
      · simp [put, get?, hknown, hne]
      · simp only [put, hknown, if_false, get?, List.find?_cons] at ih ⊢
        split
        · rfl
        · exact ih

theorem get?_ofPairs (pairs : List (Key × Value)) (name : String) :
    (ofPairs pairs).get? name =
      ((pairs.filter fun pair => pair.1 == .name name).getLast?).map Prod.snd := by
  induction pairs using List.reverseRecOn with
  | nil => rfl
  | append_singleton pairs pair ih =>
      obtain ⟨key, value⟩ := pair
      rw [ofPairs_concat, List.filter_append]
      by_cases hkey : key = .name name
      · subst hkey
        simp [get?_put_self]
      · rw [get?_put_of_ne hkey, ih]
        simp [hkey]

theorem get?_ofPairs_zip (names : List String) (values : List Value) (name : String) :
    (ofPairs ((names.map Key.name).zip values)).get? name =
      (((names.zip values).filter fun pair => pair.1 == name).getLast?).map Prod.snd := by
  have hbeq (pair : String × Value) : (Key.name pair.1 == Key.name name) = (pair.1 == name) := by
    rw [Bool.eq_iff_iff, beq_iff_eq, beq_iff_eq, Key.name.injEq]
  rw [get?_ofPairs, List.zip_map_left, List.filter_map, List.getLast?_map, Option.map_map]
  simp only [Function.comp_def, Prod.map, hbeq]
  rfl

theorem keys_put (entries : Entries) (key : Key) (value : Value) :
    (entries.put key value).map Prod.fst =
      if key ∈ entries.map Prod.fst then entries.map Prod.fst
      else entries.map Prod.fst ++ [key] := by
  induction entries with
  | nil => rfl
  | cons entry rest ih =>
      obtain ⟨known, old⟩ := entry
      by_cases hkey : known = key
      · simp [put, hkey]
      · simp only [put, hkey, if_false, List.map_cons, ih, List.mem_cons, Ne.symm hkey, false_or]
        split <;> rfl

theorem keys_ofPairs (pairs : List (Key × Value)) :
    (ofPairs pairs).map Prod.fst = (pairs.map Prod.fst).eraseDups := by
  induction pairs using List.reverseRecOn with
  | nil => rfl
  | append_singleton pairs pair ih =>
      rw [ofPairs_concat, keys_put, ih, List.map_append, List.map_singleton, eraseDups_concat]

end Entries

end ScreenFlow
