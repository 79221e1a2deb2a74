import ScreenFlow.Proofs.Script.Constant
import ScreenFlow.Proofs.Script.Literal

/-!
Values that stand for themselves.  Resolving a value gives its literal just when there is nothing to
resolve in any text that stands in it, at any depth; the scope makes no difference to this.
-/

namespace ScreenFlow

namespace Value

mutual
/-- The texts in a value, at any depth, without the keys of its maps. -/
def texts : Value → List String
  | .text value => [value]
  | .computed kind _ => [kind.marker]
  | .list items => textsOf items
  | .tuple items => textsOf items
  | .map entries => entryTexts entries
  | _ => []

def textsOf : List Value → List String
  | [] => []
  | item :: items => texts item ++ textsOf items

def entryTexts : List (Key × Value) → List String
  | [] => []
  | (_, value) :: rest => texts value ++ entryTexts rest
end

theorem textsOf_eq_flatMap (items : List Value) : textsOf items = items.flatMap texts := by
  induction items with
  | nil => rfl
  | cons item items ih => rw [textsOf, ih, List.flatMap_cons]

theorem entryTexts_eq_flatMap (entries : Entries) :
    entryTexts entries = entries.flatMap fun entry => texts entry.2 := by
  induction entries with
  | nil => rfl
  | cons entry rest ih => rw [entryTexts, ih, List.flatMap_cons]

end Value

namespace Script

/-! Two spellings side by side. -/

/-- Neither of the two texts starts with the other one. -/
def Parted (first second : List Char) : Prop :=
  ∀ rest last, first ++ rest ≠ second ++ last

theorem Parted.ne {first second : List Char} (hparted : Parted first second) : first ≠ second := by
  intro heq
  apply hparted [] []
  rw [heq]

theorem Parted.append {first second : List Char} (hparted : Parted first second)
    (rest last : List Char) : Parted (first ++ rest) (second ++ last) := by
  intro more others heq
  apply hparted (rest ++ more) (last ++ others)
  rwa [← List.append_assoc, ← List.append_assoc]

theorem Parted.append_left {first second : List Char} (hparted : Parted first second)
    (before : List Char) : Parted (before ++ first) (before ++ second) := by
  intro rest last heq
  rw [List.append_assoc, List.append_assoc] at heq
  exact hparted rest last (List.append_cancel_left heq)

theorem parted_of_head? {first second : List Char} {c d : Char} (hfirst : first.head? = some c)
    (hsecond : second.head? = some d) (hne : c ≠ d) : Parted first second := by
  obtain ⟨more, rfl⟩ := List.head?_eq_some_iff.mp hfirst
  obtain ⟨others, rfl⟩ := List.head?_eq_some_iff.mp hsecond
  intro rest last heq
  exact hne (List.cons.inj heq).1

/-- The texts are the same under the condition, and part without it. -/
structure SameWhen (Holds : Prop) (first second : List Char) : Prop where
  same : Holds → first = second
  parted : ¬Holds → Parted first second

namespace SameWhen

variable {Holds Other : Prop} {first second third fourth : List Char}

theorem of_holds (hholds : Holds) (text : List Char) : SameWhen Holds text text where
  same _ := rfl
  parted hnot := absurd hholds hnot

theorem eq_iff (hsame : SameWhen Holds first second) : first = second ↔ Holds := by
  constructor
  · intro heq
    by_contra hnot
    exact (hsame.parted hnot).ne heq
  · exact hsame.same

theorem congr (hsame : SameWhen Holds first second) (hiff : Holds ↔ Other) :
    SameWhen Other first second where
  same hother := hsame.same (hiff.mpr hother)
  parted hnot := hsame.parted fun hholds => hnot (hiff.mp hholds)

/-- What parts in front keeps the whole apart. -/
theorem append (hfirst : SameWhen Holds first second) (hlast : SameWhen Other third fourth) :
    SameWhen (Holds ∧ Other) (first ++ third) (second ++ fourth) where
  same hboth := by rw [hfirst.same hboth.1, hlast.same hboth.2]
  parted hnot := by
    by_cases hholds : Holds
    · rw [hfirst.same hholds]
      exact (hlast.parted fun hother => hnot ⟨hholds, hother⟩).append_left second
    · exact (hfirst.parted hholds).append third fourth

theorem around (hsame : SameWhen Holds first second) (before after : List Char) :
    SameWhen Holds (before ++ first ++ after) (before ++ second ++ after) :=
  (((of_holds trivial before).append hsame).append (of_holds trivial after)).congr
    (by rw [true_and, and_true])

section Items

variable {α : Type} {HoldsOf : α → Prop} {spell respell : α → String} {items : List α}
  (hitems : ∀ item ∈ items, SameWhen (HoldsOf item) (spell item).toList (respell item).toList)
include hitems

theorem further :
    SameWhen (∀ item ∈ items, HoldsOf item) (furtherText ((items.map spell).map String.toList))
      (furtherText ((items.map respell).map String.toList)) := by
  induction items with
  | nil => exact of_holds (List.forall_mem_nil _) []
  | cons item items ih =>
      obtain ⟨hitem, hitems⟩ := List.forall_mem_cons.mp hitems
      have hboth := (hitem.around [',', ' '] []).append (ih hitems)
      rw [List.append_nil, List.append_nil] at hboth
      exact hboth.congr List.forall_mem_cons.symm

theorem separated :
    SameWhen (∀ item ∈ items, HoldsOf item) (", ".intercalate (items.map spell)).toList
      (", ".intercalate (items.map respell)).toList := by
  rw [toList_intercalate_comma, toList_intercalate_comma]
  cases items with
  | nil => exact of_holds (List.forall_mem_nil _) []
  | cons item items =>
      obtain ⟨hitem, hitems⟩ := List.forall_mem_cons.mp hitems
      exact (hitem.append (further hitems)).congr List.forall_mem_cons.symm

theorem bracketed :
    SameWhen (∀ item ∈ items, HoldsOf item) (Script.bracketed (items.map spell)).toList
      (Script.bracketed (items.map respell)).toList := by
  simp only [Script.bracketed, String.toList_append]
  exact (separated hitems).around _ _

theorem braced :
    SameWhen (∀ item ∈ items, HoldsOf item) (Script.braced (items.map spell)).toList
      (Script.braced (items.map respell)).toList := by
  unfold Script.braced
  rw [List.isEmpty_map, List.isEmpty_map]
  split
  · next hempty =>
      rw [List.isEmpty_iff.mp hempty]
      exact of_holds (List.forall_mem_nil _) _
  · simp only [String.toList_append]
    exact (separated hitems).around _ _

end Items

end SameWhen

end Script

namespace Scope

open Script Segment

/-! Texts with nothing to resolve. -/

/-- No reference stands in the text, it does not start at one of the two roots, and it has not the
shape of a number or a truth value; blanks around that shape do not count. -/
structure IsInert (text : String) : Prop where
  unreferring : ¬HoldsReference text.toList
  unqualified : isQualified text = false
  shapeless : isLiteralShape (trimmed text) = false

theorem isInert_marker (kind : Placeholder) : IsInert kind.marker where
  unreferring := Cut.not_holdsReference (by cases kind <;> decide)
  unqualified := by cases kind <;> decide
  shapeless := by cases kind <;> decide

theorem resolveText_of_isInert (scope : Scope) {text : String} (hinert : IsInert text) :
    scope.resolveText text = quote text := by
  have hwhole : whole? (Text.trim text.toList) = none := by
    apply Option.eq_none_iff_forall_ne_some.mpr
    intro name hname
    exact hinert.unreferring (holdsReference_of_whole? hname)
  have hscan : ¬(scan text.toList).any isReference = true :=
    fun hany => hinert.unreferring (any_isReference_scan_iff.mp hany)
  unfold resolveText
  dsimp only
  rw [toList_trimmed, hwhole]
  dsimp only
  rw [if_neg hscan, hinert.unqualified, hinert.shapeless, Bool.or_self, if_neg Bool.false_ne_true]

/-! How an expression starts that is no quoted text. -/

theorem root_prefix_of_isQualified {text : String} (hqualified : isQualified text = true) :
    ∃ root ∈ [contextRoot, storedRoot], root.toList <+: text.toList := by
  simp only [isQualified, startsWith, Bool.or_eq_true, beq_iff_eq, List.isPrefixOf_iff_prefix,
    String.toList_append] at hqualified
  rcases hqualified with ((rfl | rfl) | hcontext) | hstored
  · exact ⟨contextRoot, by decide, List.prefix_rfl⟩
  · exact ⟨storedRoot, by decide, List.prefix_rfl⟩
  · exact ⟨contextRoot, by decide, (List.prefix_append _ _).trans hcontext⟩
  · exact ⟨storedRoot, by decide, (List.prefix_append _ _).trans hstored⟩

theorem root_prefix_resolveReference (scope : Scope) (reference : String) :
    ∃ root ∈ [contextRoot, storedRoot],
      root.toList <+: (scope.resolveReference reference).toList := by
  rw [resolveReference_eq]
  split
  · next hqualified => exact root_prefix_of_isQualified hqualified
  · exact ⟨_, rootOf_mem scope _, IsAccess.object_prefix (member_append_isAccess _ _ _)⟩

theorem head?_of_root_prefix {text : List Char}
    (hroot : ∃ root ∈ [contextRoot, storedRoot], root.toList <+: text) :
    ∃ c, text.head? = some c ∧ c ≠ '\'' ∧ Text.isBlank c = false := by
  obtain ⟨root, hmem, rest, rfl⟩ := hroot
  simp only [List.mem_cons, List.not_mem_nil, or_false] at hmem
  rcases hmem with rfl | rfl
  · exact ⟨'c', rfl, by decide, by decide⟩
  · exact ⟨'s', rfl, by decide, by decide⟩

theorem head?_of_isLiteralShape {text : String} (hshape : isLiteralShape text = true) :
    ∃ c, text.toList.head? = some c ∧ c ≠ '\'' := by
  rcases boolLiteral_or_figures hshape with ⟨value, rfl⟩ | ⟨figures, htext⟩
  · cases value
    · exact ⟨'f', rfl, by decide⟩
    · exact ⟨'t', rfl, by decide⟩
  · obtain ⟨c, rest, hwhole, hdecimal⟩ := figures.exists_whole
    rw [htext, Figures.text, hwhole]
    cases figures.isNegative
    · exact ⟨c, rfl, ne_of_isDecimal hdecimal (by decide)⟩
    · exact ⟨'-', rfl, by decide⟩

/-- Where there is something to resolve, the expression is no quoted text. -/
theorem head?_resolveText (scope : Scope) {text : String} (hactive : ¬IsInert text) :
    ∃ c, (scope.resolveText text).toList.head? = some c ∧ c ≠ '\'' := by
  unfold resolveText
  dsimp only
  split
  · obtain ⟨c, hhead, hquote, -⟩ := head?_of_root_prefix (root_prefix_resolveReference scope _)
    exact ⟨c, hhead, hquote⟩
  · split_ifs with hany hbare
    · refine ⟨backtick, ?_, by decide⟩
      rw [templateLiteral, String.toList_ofList]
      rfl
    · rcases Bool.or_eq_true_iff.mp hbare with hqualified | hshape
      · obtain ⟨c, hhead, hquote, hblank⟩ :=
          head?_of_root_prefix (root_prefix_of_isQualified hqualified)
        exact ⟨c, by rw [toList_trimmed, Text.head?_trim_of_head? hhead hblank], hquote⟩
      · exact head?_of_isLiteralShape hshape
    · rw [any_isReference_scan_iff] at hany
      simp only [Bool.or_eq_true, not_or, Bool.not_eq_true] at hbare
      exact absurd ⟨hany, hbare.1, hbare.2⟩ hactive

theorem text_sameWhen (scope : Scope) (text : String) :
    SameWhen (IsInert text) (scope.resolve (.text text)).toList (literal (.text text)).toList := by
  rw [resolve, literal, textLiteral]
  split
  · next hmarker =>
      obtain ⟨kind, hkind⟩ := Option.isSome_iff_exists.mp hmarker
      rw [Placeholder.ofMarker?] at hkind
      obtain rfl : kind.marker = text := by simpa using List.find?_some hkind
      exact .of_holds (isInert_marker kind) _
  · refine ⟨fun hinert => by rw [resolveText_of_isInert scope hinert], fun hactive => ?_⟩
    obtain ⟨c, hhead, hquote⟩ := head?_resolveText scope hactive
    exact parted_of_head? hhead (by rw [toList_quote]; rfl) hquote

/-! Values. -/

mutual
theorem resolve_sameWhen (scope : Scope) : ∀ value : Value,
    SameWhen (∀ text ∈ value.texts, IsInert text) (scope.resolve value).toList
      (literal value).toList
  | .text value => (text_sameWhen scope value).congr List.forall_mem_singleton.symm
  | .computed kind _ =>
      .of_holds (List.forall_mem_singleton.mpr (isInert_marker kind)) _
  | .list items => by
      rw [resolve, literal, resolveItems_eq_map, literals_eq_map, Value.texts,
        Value.textsOf_eq_flatMap, List.forall_mem_flatMap]
      exact .bracketed (items_sameWhen scope items)
  | .tuple items => by
      rw [resolve, literal, resolveItems_eq_map, literals_eq_map, Value.texts,
        Value.textsOf_eq_flatMap, List.forall_mem_flatMap]
      exact .bracketed (items_sameWhen scope items)
  | .map entries => by
      rw [resolve, literal, resolveEntries_eq_map, entryLiterals_eq_map, Value.texts,
        Value.entryTexts_eq_flatMap, List.forall_mem_flatMap]
      -- the keys are written alike, so that only the values count
      refine .braced fun entry hentry => ?_
      have hvalue := entries_sameWhen scope entries entry hentry
      simpa only [String.toList_append, List.append_nil] using
        hvalue.around ((key entry.1.text).toList ++ ": ".toList) []
  | .null => .of_holds (List.forall_mem_nil _) _
  | .bool _ => .of_holds (List.forall_mem_nil _) _
  | .int _ => .of_holds (List.forall_mem_nil _) _
  | .float _ => .of_holds (List.forall_mem_nil _) _
  | .callable _ => .of_holds (List.forall_mem_nil _) _
  | .other _ _ => .of_holds (List.forall_mem_nil _) _

theorem items_sameWhen (scope : Scope) : ∀ items : List Value, ∀ item ∈ items,
    SameWhen (∀ text ∈ item.texts, IsInert text) (scope.resolve item).toList (literal item).toList
  | [] => List.forall_mem_nil _
  | item :: items =>
      List.forall_mem_cons.mpr ⟨resolve_sameWhen scope item, items_sameWhen scope items⟩

theorem entries_sameWhen (scope : Scope) : ∀ entries : List (Key × Value), ∀ entry ∈ entries,
    SameWhen (∀ text ∈ entry.2.texts, IsInert text) (scope.resolve entry.2).toList
      (literal entry.2).toList
  | [] => List.forall_mem_nil _
  | (_, value) :: rest =>
      List.forall_mem_cons.mpr ⟨resolve_sameWhen scope value, entries_sameWhen scope rest⟩
end

/-- A value resolves to its literal exactly when nothing is to be resolved in its texts. -/
theorem resolve_eq_literal_iff (scope : Scope) (value : Value) :
    scope.resolve value = literal value ↔ ∀ text ∈ value.texts, IsInert text := by
  rw [← String.toList_inj]
  exact (resolve_sameWhen scope value).eq_iff

example : resolve [] (.text " 42 ") = "42" ∧ literal (.text " 42 ") = "' 42 '" := by
  decide +kernel

end Scope

end ScreenFlow
