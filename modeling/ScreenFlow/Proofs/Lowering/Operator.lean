import ScreenFlow.Proofs.Lowering.Item

/-!
Operators of comparisons as templates.  The two expressions of an operator are texts with a marker
in the place of each operand.  A statement holds the operands in the places of the markers, whatever
they are made of, and the rest of the templates as it is.
-/

namespace ScreenFlow

/-- A side of a comparison. -/
inductive Side where
  | left
  | right
  deriving DecidableEq, Repr

def Side.marker : Side → List Char
  | left => "{left}".toList
  | right => "{right}".toList

/-- An operator by its name, with the templates of what is compared and of the matcher. -/
structure OperatorTexts where
  name : String
  subject : String
  matcher : String
  deriving DecidableEq, Repr

def OperatorTexts.all : List OperatorTexts := [
  ⟨"equals", "{left}", "toBe({right})"⟩,
  ⟨"notEquals", "{left}", "not.toBe({right})"⟩,
  ⟨"contains", "String({left})", "toContain(String({right}))"⟩,
  ⟨"notContains", "String({left})", "not.toContain(String({right}))"⟩,
  ⟨"greaterThan", "Number({left})", "toBeGreaterThan(Number({right}))"⟩,
  ⟨"lessThan", "Number({left})", "toBeLessThan(Number({right}))"⟩,
  ⟨"greaterOrEqual", "Number({left})", "toBeGreaterThanOrEqual(Number({right}))"⟩,
  ⟨"lessOrEqual", "Number({left})", "toBeLessThanOrEqual(Number({right}))"⟩,
  ⟨"matches", "String({left})", "toMatch(new RegExp({right}))"⟩,
  ⟨"startsWith", "String({left}).startsWith(String({right}))", "toBe(true)"⟩,
  ⟨"endsWith", "String({left}).endsWith(String({right}))", "toBe(true)"⟩,
  ⟨"isDefined", "{left}", "toBeDefined()"⟩,
  ⟨"isUndefined", "{left}", "toBeUndefined()"⟩,
  ⟨"isTruthy", "{left}", "toBeTruthy()"⟩,
  ⟨"isFalsy", "{left}", "toBeFalsy()"⟩,
  ⟨"lengthEquals", "{left}?.length", "toBe(Number({right}))"⟩,
  ⟨"lengthGreaterThan", "{left}?.length", "toBeGreaterThan(Number({right}))"⟩]

/-! Templates at their markers. -/

/-- The piece in front of the first marker, and for each marker its side and the piece behind it. -/
@[ext]
structure OperatorCut where
  first : List Char
  spans : List (Side × List Char)
  deriving DecidableEq, Repr

namespace OperatorCut

def spansFilled (operands : Side → List Char) (spans : List (Side × List Char)) : List Char :=
  spans.flatMap fun span => operands span.1 ++ span.2

/-- The pieces, with a text for each operand between them. -/
def filled (cut : OperatorCut) (operands : Side → List Char) : List Char :=
  cut.first ++ spansFilled operands cut.spans

def pieces (cut : OperatorCut) : List (List Char) :=
  cut.first :: cut.spans.map Prod.snd

def HoldsMarker (text : List Char) : Prop :=
  ∃ side : Side, side.marker <:+: text

/-- The text is cut at all its markers. -/
structure IsExact (cut : OperatorCut) (text : List Char) : Prop where
  text : cut.filled Side.marker = text
  pieces : ∀ piece ∈ cut.pieces, ¬HoldsMarker piece

theorem marker_eq_cons (side : Side) :
    ∃ inner, side.marker = '\x7b' :: inner ∧ '\x7b' ∉ inner := by
  cases side
  · exact ⟨_, rfl, by decide⟩
  · exact ⟨_, rfl, by decide⟩

theorem marker_append_inj {side other : Side} {rest last : List Char}
    (heq : side.marker ++ rest = other.marker ++ last) : side = other ∧ rest = last := by
  cases side <;> cases other
  · exact ⟨rfl, List.append_cancel_left heq⟩
  · exact absurd (List.cons.inj (List.cons.inj heq).2).1 (by decide)
  · exact absurd (List.cons.inj (List.cons.inj heq).2).1 (by decide)
  · exact ⟨rfl, List.append_cancel_left heq⟩

theorem not_holdsMarker {text : List Char} (hplain : '\x7b' ∉ text) : ¬HoldsMarker text := by
  rintro ⟨side, hwithin⟩
  obtain ⟨inner, hcons, -⟩ := marker_eq_cons side
  apply hplain
  apply hwithin.subset
  rw [hcons]
  exact List.mem_cons_self

theorem spansFilled_cons (operands : Side → List Char) (span : Side × List Char)
    (spans : List (Side × List Char)) :
    spansFilled operands (span :: spans) =
      operands span.1 ++ (span.2 ++ spansFilled operands spans) := by
  rw [spansFilled, List.flatMap_cons, List.append_assoc]
  rfl

theorem spansFilled_marker_eq_nil_iff {spans : List (Side × List Char)} :
    spansFilled Side.marker spans = [] ↔ spans = [] := by
  cases spans with
  | nil => exact iff_of_true rfl rfl
  | cons span spans =>
      obtain ⟨inner, hcons, -⟩ := marker_eq_cons span.1
      rw [spansFilled_cons, hcons]
      exact iff_of_false (List.cons_ne_nil _ _) (List.cons_ne_nil _ _)

theorem head?_spansFilled {spans : List (Side × List Char)} {c : Char}
    (hhead : (spansFilled Side.marker spans).head? = some c) : c = '\x7b' := by
  cases spans with
  | nil => cases hhead
  | cons span spans =>
      obtain ⟨inner, hcons, -⟩ := marker_eq_cons span.1
      rw [spansFilled_cons, hcons] at hhead
      exact (Option.some.inj hhead).symm

/-- A piece goes on to the next marker, and not into it. -/
theorem eq_nil_of_spansFilled {spans others : List (Side × List Char)} {more : List Char}
    (hplain : ¬HoldsMarker more)
    (heq : spansFilled Side.marker spans = more ++ spansFilled Side.marker others) :
    more = [] := by
  cases spans with
  | nil => exact (List.append_eq_nil_iff.mp heq.symm).1
  | cons span spans =>
      rw [spansFilled_cons] at heq
      rcases List.append_eq_append_iff.mp heq with ⟨rest, rfl, -⟩ | ⟨rest, hmarker, hothers⟩
      · exact absurd ⟨span.1, (List.prefix_append _ rest).isInfix⟩ hplain
      · obtain ⟨inner, hcons, hinner⟩ := marker_eq_cons span.1
        cases more with
        | nil => rfl
        | cons c more =>
            cases rest with
            | nil =>
                rw [List.append_nil] at hmarker
                exact absurd ⟨span.1, hmarker ▸ List.infix_rfl⟩ hplain
            | cons d rest =>
                -- no brace opens behind the first character of a marker
                have hd : d = '\x7b' := head?_spansFilled (by rw [hothers]; rfl)
                rw [hcons] at hmarker
                apply absurd _ hinner
                rw [(List.cons.inj hmarker).2, hd]
                exact List.mem_append_right _ List.mem_cons_self

/-- Of two cuts of one text neither has the longer first piece. -/
theorem first_eq_of_filled {first second : List Char} {spans others : List (Side × List Char)}
    (hfirst : ¬HoldsMarker first) (hsecond : ¬HoldsMarker second)
    (heq : first ++ spansFilled Side.marker spans =
      second ++ spansFilled Side.marker others) : first = second := by
  have hsuffix {text before more : List Char} (htext : text = before ++ more)
      (hplain : ¬HoldsMarker text) : ¬HoldsMarker more := by
    rintro ⟨side, hwithin⟩
    exact hplain ⟨side, htext ▸ hwithin.trans (List.suffix_append before more).isInfix⟩
  rcases List.append_eq_append_iff.mp heq with ⟨more, hmore, hspans⟩ | ⟨more, hmore, hspans⟩
  · rw [hmore, eq_nil_of_spansFilled (hsuffix hmore hsecond) hspans, List.append_nil]
  · rw [hmore, eq_nil_of_spansFilled (hsuffix hmore hfirst) hspans, List.append_nil]

theorem spans_eq_of_filled {spans others : List (Side × List Char)}
    (hspans : ∀ span ∈ spans, ¬HoldsMarker span.2) (hothers : ∀ span ∈ others, ¬HoldsMarker span.2)
    (heq : spansFilled Side.marker spans = spansFilled Side.marker others) :
    spans = others := by
  induction spans generalizing others with
  | nil => exact (spansFilled_marker_eq_nil_iff.mp heq.symm).symm
  | cons span spans ih =>
      cases others with
      | nil => exact spansFilled_marker_eq_nil_iff.mp heq
      | cons other others =>
          obtain ⟨hspan, hspans⟩ := List.forall_mem_cons.mp hspans
          obtain ⟨hother, hothers⟩ := List.forall_mem_cons.mp hothers
          rw [spansFilled_cons, spansFilled_cons] at heq
          obtain ⟨hside, hrest⟩ := marker_append_inj heq
          -- the piece behind the marker is the first one of what is left
          have hpiece := first_eq_of_filled hspan hother hrest
          rw [hpiece] at hrest
          rw [Prod.ext hside hpiece, ih hspans hothers (List.append_cancel_left hrest)]

/-- There is one way to cut a template at all its markers. -/
theorem IsExact.unique {text : List Char} {cut other : OperatorCut} (hcut : cut.IsExact text)
    (hother : other.IsExact text) : cut = other := by
  obtain ⟨hfirst, hspans⟩ := List.forall_mem_cons.mp hcut.pieces
  obtain ⟨hsecond, hothers⟩ := List.forall_mem_cons.mp hother.pieces
  rw [List.forall_mem_map] at hspans hothers
  have heq : cut.first ++ spansFilled Side.marker cut.spans =
      other.first ++ spansFilled Side.marker other.spans := hcut.text.trans hother.text.symm
  have hsame := first_eq_of_filled hfirst hsecond heq
  rw [hsame] at heq
  exact OperatorCut.ext hsame (spans_eq_of_filled hspans hothers (List.append_cancel_left heq))

/-- The pieces of an expression between its operands. -/
def ofParts : List OperatorPart → OperatorCut
  | [] => ⟨[], []⟩
  | .text text :: parts => ⟨text.toList ++ (ofParts parts).first, (ofParts parts).spans⟩
  | .left :: parts => ⟨[], (.left, (ofParts parts).first) :: (ofParts parts).spans⟩
  | .right :: parts => ⟨[], (.right, (ofParts parts).first) :: (ofParts parts).spans⟩

theorem filled_ofParts (operands : Side → String) (parts : List OperatorPart) :
    (ofParts parts).filled (fun side => (operands side).toList) =
      (DataOperator.fill (operands .left) (operands .right) parts).toList := by
  induction parts with
  | nil => rfl
  | cons part parts ih =>
      simp only [DataOperator.fill, String.toList_join, List.map_cons, String.join_cons,
        String.toList_append] at ih ⊢
      cases part with
      | text text => simp only [filled, ofParts, List.append_assoc, ← ih]
      | left => simp only [filled, ofParts, spansFilled_cons, List.nil_append, ← ih]
      | right => simp only [filled, ofParts, spansFilled_cons, List.nil_append, ← ih]

/-- The text is the template with the operands in the places of all its markers. -/
def IsFilled (template : String) (operands : Side → String) (text : String) : Prop :=
  ∃ cut : OperatorCut,
    (∀ other : OperatorCut, other.IsExact template.toList ↔ other = cut) ∧
      text.toList = cut.filled fun side => (operands side).toList

end OperatorCut

namespace DataOperator

open OperatorCut

/-- The operator with the markers of its operands. -/
def texts (operator : DataOperator) : OperatorTexts where
  name := operator.name
  subject := String.ofList ((ofParts operator.subject).filled Side.marker)
  matcher := String.ofList ((ofParts operator.matcher).filled Side.marker)

theorem map_texts_all : all.map texts = OperatorTexts.all := by
  decide +kernel

theorem named?_of_mem : ∀ operator ∈ all, named? operator.name = some operator := by
  simp [all, named?]

theorem pieces_of_mem : ∀ operator ∈ all, ∀ parts ∈ [operator.subject, operator.matcher],
    ∀ piece ∈ (ofParts parts).pieces, '\x7b' ∉ piece := by
  decide +kernel

theorem fill_isFilled {operator : DataOperator} (hmem : operator ∈ all) {parts : List OperatorPart}
    (hparts : parts ∈ [operator.subject, operator.matcher]) (operands : Side → String) :
    IsFilled (String.ofList ((ofParts parts).filled Side.marker)) operands
      (fill (operands .left) (operands .right) parts) := by
  have hplain := pieces_of_mem operator hmem parts hparts
  have hexact : (ofParts parts).IsExact ((ofParts parts).filled Side.marker) :=
    ⟨rfl, fun piece hpiece => not_holdsMarker (hplain piece hpiece)⟩
  refine ⟨ofParts parts, fun other => ?_, (filled_ofParts operands parts).symm⟩
  rw [String.toList_ofList]
  exact ⟨fun hother => hother.unique hexact, fun heq => heq ▸ hexact⟩

end DataOperator

namespace Lowering

open OperatorCut

def operandText (scope : Scope) (assertion : DataAssertion) : Side → String
  | .left => scope.resolve assertion.left
  | .right => scope.resolve assertion.right

/-- The templates of the operator, filled with what is compared, as one expectation. -/
def IsComparison (scope : Scope) (assertion : DataAssertion) (operator : OperatorTexts)
    (line : String) : Prop :=
  ∃ subject matcher, IsFilled operator.subject (operandText scope assertion) subject ∧
    IsFilled operator.matcher (operandText scope assertion) matcher ∧
    line = "expect(" ++ subject ++ ", " ++ Script.quote (dataLabel assertion) ++ ")." ++ matcher ++
      ";"

theorem dataLine_isComparison (scope : Scope) {assertion : DataAssertion} {operator : OperatorTexts}
    (hmem : operator ∈ OperatorTexts.all) (hname : operator.name = assertion.operator) :
    IsComparison scope assertion operator (dataLine scope assertion) := by
  rw [← DataOperator.map_texts_all] at hmem
  obtain ⟨known, hknown, rfl⟩ := List.mem_map.mp hmem
  have hnamed : DataOperator.named? assertion.operator = some known := by
    rw [← hname]
    exact DataOperator.named?_of_mem known hknown
  refine ⟨_, _, DataOperator.fill_isFilled hknown (by simp) _,
    DataOperator.fill_isFilled hknown (by simp) _, ?_⟩
  unfold dataLine
  rw [hnamed]
  rfl

/-- In raw mode each comparison becomes one statement, in the order of declaration.  With a known
operator it is the expectation that the templates of the operator give for the resolved operands. -/
theorem comparisons_filled {block : Block} {assertions : List DataAssertion}
    (hkind : kindOf block = "data_assertion") (hdata : block.dataAssertions = .ok assertions)
    (place : Place) (ledger : Ledger) :
    ∃ lowered after, (Lowering.block .raw block place).run ledger = (.ok lowered, after) ∧
      List.Forall₂ (fun assertion line => ∀ operator ∈ OperatorTexts.all,
          operator.name = assertion.operator → IsComparison place.scope assertion operator line)
        assertions lowered.lines := by
  obtain ⟨-, lowered, after, hrun, hlines⟩ := run_comparisons hkind hdata place ledger
  refine ⟨lowered, after, hrun, ?_⟩
  rw [hlines, List.forall₂_map_right_iff, List.forall₂_same]
  exact fun assertion _ operator hmem hname => dataLine_isComparison place.scope hmem hname

/-- Operands that look like markers, one of them with a backslash. -/
def bracedComparison : Block where
  type := BlockType.dataAssertion
  assertions := [{ left := .text "{right}\\", operator := "startsWith", right := .text "{left}" }]

def startsWithCut : OperatorCut where
  first := "String(".toList
  spans := [(.left, ").startsWith(String(".toList), (.right, "))".toList)]

theorem startsWithCut_isExact :
    startsWithCut.IsExact "String({left}).startsWith(String({right}))".toList where
  text := by decide
  pieces := by
    have hplain : ∀ piece ∈ startsWithCut.pieces, '\x7b' ∉ piece := by decide
    exact fun piece hmem => not_holdsMarker (hplain piece hmem)

theorem bracedComparison_filled :
    ∃ lowered after,
      (Lowering.block .raw bracedComparison checkoutPlace).run {} = (.ok lowered, after) ∧
      lowered.lines = ["expect(String('{right}\\\\').startsWith(String('{left}')), " ++
        "'{right}\\\\ startsWith {left}').toBe(true);"] := by
  have hdata : bracedComparison.dataAssertions = .ok bracedComparison.assertions := rfl
  obtain ⟨lowered, after, hrun, hlines⟩ :=
    comparisons_filled (by decide) hdata checkoutPlace {}
  obtain ⟨line, rest, hline, hrest, hfound⟩ := List.forall₂_cons_left_iff.mp hlines
  rw [List.forall₂_nil_left_iff.mp hrest] at hfound
  obtain ⟨subject, matcher, ⟨cut, hcut, hsubject⟩, ⟨whole, hwhole, hmatcher⟩, hstatement⟩ :=
    hline ⟨"startsWith", "String({left}).startsWith(String({right}))", "toBe(true)"⟩ (by decide) rfl
  obtain rfl := (hcut _).mp startsWithCut_isExact
  obtain rfl := (hwhole ⟨"toBe(true)".toList, []⟩).mp
    ⟨rfl, List.forall_mem_singleton.mpr (not_holdsMarker (by decide))⟩
  have hsubject : subject = "String('{right}\\\\').startsWith(String('{left}'))" :=
    String.toList_injective (hsubject.trans (by decide +kernel))
  have hmatcher : matcher = "toBe(true)" := String.toList_injective (hmatcher.trans rfl)
  refine ⟨lowered, after, hrun, hfound.trans ?_⟩
  rw [hstatement, hsubject, hmatcher]
  decide +kernel

end Lowering

end ScreenFlow
