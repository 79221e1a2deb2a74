import ScreenFlow.Proofs.Lowering.Item

/-!
One position in both modes.  A selector that asks for one of many elements leads to the same text of
the position in the descriptor and in the statements, unless its variable has no name.
-/

namespace ScreenFlow

namespace Selector

/-- The variable in the bracket of the text has a name of blanks alone. -/
def IsNameless (text : String) : Prop :=
  ∃ field inside between, cut? (Text.trim text.toList) = some (field, inside) ∧
    Text.trim inside = Segment.referenceTo between ∧ between ≠ [] ∧
    ∀ c ∈ between, Text.isBlank c = true

theorem isBrace_of_isBlank {c : Char} (hblank : Text.isBlank c = true) :
    Segment.isBrace c = false := by
  rw [Segment.isBrace, Bool.or_eq_false_iff, decide_eq_false_iff_not, decide_eq_false_iff_not]
  constructor
  · rintro rfl
    cases hblank
  · rintro rfl
    cases hblank

theorem exists_of_selection?_nth {inside : List Char} {selection : Selection}
    (hfound : selection? inside = .ok (some selection)) (hnth : selection.name = "nth") :
    (∃ index, selection = .position index) ∨
      ∃ between, inside = Segment.referenceTo between ∧ between ≠ [] ∧
        selection = .fromVariable (String.ofList (Text.trim between)) := by
  unfold selection? at hfound
  split_ifs at hfound
  · cases hfound
    exact absurd hnth (by decide)
  · cases hfound
    exact absurd hnth (by decide)
  · cases hfound
    exact absurd hnth (by decide)
  · cases hfound
    exact absurd hnth (by decide)
  · split at hfound
    · cases hfound
      exact .inl ⟨_, rfl⟩
    · cases hfound
  · cases hwhole : Segment.whole? inside with
    | none =>
        rw [hwhole] at hfound
        cases hfound
    | some name =>
        obtain ⟨between, hinside, hne, -, rfl⟩ := Segment.exists_of_whole? hwhole
        rw [hwhole, Option.map_some, Segment.trim_nameOf] at hfound
        cases hfound
        exact .inr ⟨between, hinside, hne, rfl⟩

theorem exists_of_parse_nth {text : String} {selector : Selector}
    (hparse : parse text = .ok selector) (hnth : selector.selection.name = "nth") :
    ∃ field inside, cut? (Text.trim text.toList) = some (field, inside) ∧
      selection? (Text.trim inside) = .ok (some selector.selection) := by
  have hsingle : Selection.single.name ≠ "nth" := by decide
  unfold parse at hparse
  dsimp only at hparse
  split at hparse
  · cases hparse
    exact absurd hnth hsingle
  · next field inside hcut =>
      obtain ⟨found, hfound, hparse⟩ := exists_of_bind_eq_ok hparse
      cases found with
      | none =>
          cases hparse
          exact absurd hnth hsingle
      | some selection =>
          cases hparse
          exact ⟨field, inside, hcut, hfound⟩

theorem isNameless_iff {text : String} {selector : Selector} (hparse : parse text = .ok selector)
    (hnth : selector.selection.name = "nth") :
    IsNameless text ↔ selector.selection = .fromVariable "" := by
  obtain ⟨field, inside, hcut, hfound⟩ := exists_of_parse_nth hparse hnth
  constructor
  · rintro ⟨_, _, between, hother, hinside, hne, hblank⟩
    cases hcut.symm.trans hother
    rw [hinside, selection?_referenceTo hne fun c hmem => isBrace_of_isBlank (hblank c hmem),
      Text.trim_eq_nil_iff.mpr hblank] at hfound
    exact (Option.some.inj (Except.ok.inj hfound)).symm
  · intro hnameless
    rw [hnameless] at hfound
    rcases exists_of_selection?_nth hfound rfl with ⟨_, hindex⟩ | ⟨between, hinside, hne, hname⟩
    · cases hindex
    · have hnone : Text.trim between = [] := by
        simpa using (Selection.fromVariable.inj hname).symm
      exact ⟨field, inside, between, hcut, hinside, hne, Text.trim_eq_nil_iff.mp hnone⟩

end Selector

namespace Lowering

open UiChecks (Item)

/-- The text of a position: a number, or what a variable that has a name resolves to. -/
inductive IsPosition (scope : Scope) : Selection → String → Prop
  | number (index : Nat) : IsPosition scope (.position index) (toString index)
  | named {name : String} (hne : name ≠ "") :
      IsPosition scope (.fromVariable name) (scope.resolveReference name)

theorem exists_isPosition_iff {selection : Selection} (hnth : selection.name = "nth")
    (scope : Scope) :
    (∃ index, IsPosition scope selection index) ↔ selection ≠ .fromVariable "" := by
  constructor
  · rintro ⟨index, hindex⟩ rfl
    cases hindex with
    | named hne => exact hne rfl
  · intro hnamed
    cases selection with
    | position index => exact ⟨_, .number index⟩
    | fromVariable name => exact ⟨_, .named fun hempty => hnamed (by rw [hempty])⟩
    | single | first | last | all | any => exact absurd hnth (by decide)

/-- Both modes look the position up in the same places. -/
theorem IsPosition.emitted {scope : Scope} {selection : Selection} {index : String}
    (hindex : IsPosition scope selection index) :
    selectEntries scope selection =
        [("select", Script.quote "nth"), ("index", index)] ∧
      positionText scope selection = index := by
  cases hindex with
  | number index => exact ⟨rfl, rfl⟩
  | @named name hne =>
      have hname : (Selection.fromVariable name).variableName? = some name := if_neg hne
      unfold selectEntries positionText
      rw [hname]
      exact ⟨rfl, rfl⟩

/-- The statements find the element at the position, or hand the position to the function in front
of the other arguments. -/
def PointsAt (place : Place) (field index : String) (item : Item) (lines : List String) : Prop :=
  match item with
  | .assertion check => ∃ line ∈ lines, Mentions line
      (callText place.object field (index :: check.args.map place.scope.resolve) true)
  | _ => ∃ line ∈ lines, Mentions line (place.object ++ "." ++ field ++ ".nth(" ++ index ++ ")")

theorem pointsAt_locatorLines {place : Place} {selector : Selector} {index : String}
    (hindex : IsPosition place.scope selector.selection index) (matcher : String) :
    ∃ line ∈ locatorLines place selector matcher,
      Mentions line (place.object ++ "." ++ selector.field ++ ".nth(" ++ index ++ ")") := by
  have hall : selector.selection ≠ .all := by
    intro hall
    rw [hall] at hindex
    cases hindex
  have hlocator : locator place selector =
      place.object ++ "." ++ selector.field ++ ".nth(" ++ index ++ ")" := by
    unfold locator
    rw [hindex.emitted.2]
    obtain ⟨field, selection⟩ := selector
    cases hindex with
    | number index => rfl
    | named hne => rfl
  rw [locatorLines, if_neg hall, hlocator]
  exact ⟨_, List.mem_append_right _ (.head _), "await expect(", ")." ++ matcher ++ ";",
    by simp only [String.append_assoc]⟩

/-- The descriptor holds the position, and the statements point at it. -/
def EmitsIndex (place : Place) (selector : Selector) (index : String) (item : Item) : Prop :=
  ∃ check lines, itemCheck place.scope item = .ok check ∧ itemLines place item = .ok lines ∧
    check.lookup "index" = some index ∧ PointsAt place selector.field index item lines

section Items

variable {place : Place} {selector : Selector} {index : String}
  (hindex : IsPosition place.scope selector.selection index)
include hindex

theorem emitsIndex_element {item : Item} {name kind matcher : String}
    (hparse : Selector.parse name = .ok selector)
    (hcheck : itemCheck place.scope item = elementCheck place.scope kind name)
    (hlines : itemLines place item = elementLines place matcher name)
    (hpoints : PointsAt place selector.field index item (locatorLines place selector matcher)) :
    EmitsIndex place selector index item := by
  rw [elementCheck, hparse] at hcheck
  rw [elementLines, hparse] at hlines
  refine ⟨_, _, hcheck, hlines, ?_, hpoints⟩
  rw [selectorEntries, hindex.emitted.1]
  rfl

theorem emitsIndex_text {item : Item} {name kind matcher : String} {expected : Value}
    (hparse : Selector.parse name = .ok selector)
    (hcheck : itemCheck place.scope item = textCheck place.scope kind (name, expected))
    (hlines : itemLines place item = textLines place matcher (name, expected))
    (hpoints : ∀ matcher,
      PointsAt place selector.field index item (locatorLines place selector matcher)) :
    EmitsIndex place selector index item := by
  rw [textCheck, elementCheck, hparse] at hcheck
  rw [textLines, elementLines, hparse] at hlines
  refine ⟨_, _, hcheck, hlines, ?_, hpoints _⟩
  rw [selectorEntries, hindex.emitted.1]
  rfl

theorem emitsIndex_assertion {assertion : FunctionAssertion}
    (hparse : Selector.parse assertion.function = .ok selector) :
    EmitsIndex place selector index (.assertion assertion) := by
  have hcheck : (assertionCheck place.scope assertion).isOk = true := by
    rw [assertionCheck, hparse]
    rfl
  have hlines : (assertionLines place assertion).isOk = true := by
    rw [assertionLines, hparse]
    rfl
  obtain ⟨check, hcheck⟩ := exists_of_isOk hcheck
  obtain ⟨lines, hlines⟩ := exists_of_isOk hlines
  refine ⟨check, lines, hcheck, hlines, ?_, ?_⟩
  · obtain ⟨found, hfound, rfl⟩ := assertionCheck_eq_ok hcheck
    cases hfound.symm.trans hparse
    have hsingle : selector.selection ≠ .single := by
      intro hsingle
      rw [hsingle] at hindex
      cases hindex
    rw [if_neg hsingle, hindex.emitted.1]
    rfl
  · apply mentions_assertionLines hlines hparse
    have hargs : assertionArgs place.scope selector.selection assertion.args =
        index :: assertion.args.map place.scope.resolve := by
      rw [← hindex.emitted.2]
      obtain ⟨field, selection⟩ := selector
      cases hindex with
      | number index => rfl
      | named hne => rfl
    rw [assertedCall, hargs]
    exact ⟨"", "", by simp⟩

theorem emitsIndex_of_subject {item : Item} (hsubject : item.subject = .ok selector) :
    EmitsIndex place selector index item := by
  have hpoints := pointsAt_locatorLines hindex
  have hplain : ∀ name, Selector.mk name .single ≠ selector := by
    rintro name rfl
    cases hindex
  cases item with
  | visible name => exact emitsIndex_element hindex hsubject rfl rfl (hpoints _)
  | hidden name => exact emitsIndex_element hindex hsubject rfl rfl (hpoints _)
  | text name expected => exact emitsIndex_text hindex hsubject rfl rfl hpoints
  | contains name expected => exact emitsIndex_text hindex hsubject rfl rfl hpoints
  | truthy name => exact absurd (Except.ok.inj hsubject) (hplain name)
  | falsy name => exact absurd (Except.ok.inj hsubject) (hplain name)
  | assertion assertion => exact emitsIndex_assertion hindex hsubject

end Items

/-- Both modes emit one position wherever a selector asks for one, unless its variable has a name of
blanks alone. -/
theorem index_emitted_iff {text : String} {selector : Selector}
    (hparse : Selector.parse text = .ok selector) (hnth : selector.selection.name = "nth")
    (place : Place) :
    (∃ index, IsPosition place.scope selector.selection index ∧
      ∀ item : Item, item.subject = .ok selector → EmitsIndex place selector index item) ↔
      ¬Selector.IsNameless text := by
  rw [Selector.isNameless_iff hparse hnth, ← Ne, ← exists_isPosition_iff hnth place.scope]
  constructor
  · rintro ⟨index, hindex, -⟩
    exact ⟨index, hindex⟩
  · rintro ⟨index, hindex⟩
    exact ⟨index, hindex, fun item hsubject => emitsIndex_of_subject hindex hsubject⟩

theorem rowNumber_emitted :
    Selector.parse "rows[ \x7b\x7b rowNo \x7d\x7d ]" = .ok ⟨"rows", .fromVariable "rowNo"⟩ ∧
      ¬Selector.IsNameless "rows[ \x7b\x7b rowNo \x7d\x7d ]" ∧
      ∃ index, IsPosition [] (.fromVariable "rowNo") index ∧
        EmitsIndex checkoutPlace ⟨"rows", .fromVariable "rowNo"⟩ index
          (.visible "rows[ \x7b\x7b rowNo \x7d\x7d ]") := by
  have hparse : Selector.parse "rows[ \x7b\x7b rowNo \x7d\x7d ]" =
      .ok ⟨"rows", .fromVariable "rowNo"⟩ := by decide +kernel
  have hnamed : ¬Selector.IsNameless "rows[ \x7b\x7b rowNo \x7d\x7d ]" := by
    rw [Selector.isNameless_iff hparse rfl]
    decide
  obtain ⟨index, hindex, hemits⟩ := (index_emitted_iff hparse rfl checkoutPlace).mpr hnamed
  exact ⟨hparse, hnamed, index, hindex, hemits (.visible _) hparse⟩

/-- A row is asked for by a variable with a blank name, and neither mode gets a position. -/
theorem not_emitsIndex_nameless :
    Selector.parse "rows[\x7b\x7b \x7d\x7d]" = .ok ⟨"rows", .fromVariable ""⟩ ∧
      (Selection.fromVariable "").name = "nth" ∧
      (¬∃ index, EmitsIndex checkoutPlace ⟨"rows", .fromVariable ""⟩ index
        (.visible "rows[\x7b\x7b \x7d\x7d]")) ∧
      itemLines checkoutPlace (.visible "rows[\x7b\x7b \x7d\x7d]") =
        .ok ["await expect(checkout.rows.nth(None)).toBeVisible();"] := by
  have hparse : Selector.parse "rows[\x7b\x7b \x7d\x7d]" = .ok ⟨"rows", .fromVariable ""⟩ := by
    decide +kernel
  refine ⟨hparse, rfl, ?_, ?_⟩
  · rintro ⟨index, check, lines, hcheck, -, hlookup, -⟩
    rw [itemCheck, elementCheck, hparse] at hcheck
    cases hcheck
    cases hlookup
  · rw [itemLines, elementLines, hparse]
    rfl

end Lowering

end ScreenFlow
