import ScreenFlow.Proofs.Scope.Reference

/-!
Template literals read back.  A literal is static text with expressions between, by the grammar of the
script; what an expression is, stays open.  Of static text a reader undoes the escapes, and takes a
carriage return, with or without a line feed behind it, for a line feed.
-/

namespace ScreenFlow

namespace Script

/-! Static text. -/

/-- What ends a stretch of static text. -/
inductive Ending where
  | close
  | substitution
  deriving DecidableEq, Repr

def Ending.mark : Ending → List Char
  | close => [backtick]
  | substitution => ['$', '\x7b']

/-- A carriage return counts as a line feed, and one in front of a line feed not at all. -/
def cooked (c : Char) : Char :=
  if c = '\r' then '\n' else c

def isPassedOver (c : Char) (rest : List Char) : Bool :=
  c = '\r' && rest.head? = some '\n'

/-- The text of a stretch of static text, its ending, and what follows. -/
def readStatic? : List Char → Option (List Char × Ending × List Char)
  | [] => none
  | '$' :: '\x7b' :: rest => some ([], .substitution, rest)
  | '\\' :: '\r' :: '\n' :: rest => readStatic? rest
  | '\\' :: c :: rest => do
      let spelled ← templateEscape? c
      let (text, after) ← readStatic? rest
      return (spelled ++ text, after)
  | c :: rest =>
      if c = backtick then some ([], .close, rest)
      else if isPassedOver c rest then readStatic? rest
      else (readStatic? rest).map fun found => (cooked c :: found.1, found.2)

/-- The text with one sort of line ends. -/
def unifyLineEnds : List Char → List Char
  | [] => []
  | c :: rest =>
      if isPassedOver c rest then unifyLineEnds rest else cooked c :: unifyLineEnds rest

theorem unifyLineEnds_eq_self_iff {text : List Char} : unifyLineEnds text = text ↔ '\r' ∉ text := by
  constructor
  · have hnone : '\r' ∉ unifyLineEnds text := by
      induction text with
      | nil => exact List.not_mem_nil
      | cons c rest ih =>
          unfold unifyLineEnds
          split
          · exact ih
          · have hcooked : '\r' ≠ cooked c := by
              unfold cooked
              split
              · decide
              · next hother => exact Ne.symm hother
            exact List.not_mem_cons_of_ne_of_not_mem hcooked ih
    intro hsame
    rwa [hsame] at hnone
  · intro hplain
    induction text with
    | nil => rfl
    | cons c rest ih =>
        have hc : c ≠ '\r' := fun heq => hplain (heq ▸ List.mem_cons_self)
        have hrest := ih fun hmem => hplain (List.mem_cons_of_mem c hmem)
        simp [unifyLineEnds, isPassedOver, cooked, hc, hrest]

theorem readStatic?_cons {c : Char} {rest : List Char} (hslash : c ≠ '\\')
    (hdollar : c = '$' → rest.head? ≠ some '\x7b') :
    readStatic? (c :: rest) =
      if c = backtick then some ([], .close, rest)
      else if isPassedOver c rest then readStatic? rest
      else (readStatic? rest).map fun found => (cooked c :: found.1, found.2) := by
  rw [readStatic?]
  · rintro after rfl rfl
    exact hdollar rfl rfl
  · rintro after rfl -
    exact hslash rfl
  · rintro d after rfl -
    exact hslash rfl

theorem readStatic?_escape {c : Char} (rest : List Char) (hself : templateEscape? c = some [c])
    (hreturn : c ≠ '\r') :
    readStatic? ('\\' :: c :: rest) =
      (readStatic? rest).map fun found => (c :: found.1, found.2) := by
  rw [readStatic?]
  · rw [hself]
    cases readStatic? rest <;> rfl
  · rintro after rfl -
    exact hreturn rfl

theorem readStatic?_mark (ending : Ending) (rest : List Char) :
    readStatic? (ending.mark ++ rest) = some ([], ending, rest) := by
  cases ending with
  | close =>
      have hslash : backtick ≠ '\\' := by decide
      have hdollar : backtick ≠ '$' := by decide
      rw [Ending.mark, List.singleton_append,
        readStatic?_cons hslash fun heq => absurd heq hdollar, if_pos rfl]
  | substitution => rfl

theorem head?_mark (ending : Ending) (rest : List Char) {c : Char}
    (hhead : (ending.mark ++ rest).head? = some c) : c = backtick ∨ c = '$' := by
  cases ending with
  | close =>
      cases hhead
      exact .inl rfl
  | substitution =>
      cases hhead
      exact .inr rfl

theorem templateText_cons {c : Char} {rest : List Char}
    (hopen : ∀ after, c = '$' → rest = '\x7b' :: after → False) :
    templateText (c :: rest) =
      if c = '\\' || c = backtick then '\\' :: c :: templateText rest
      else c :: templateText rest := by
  rw [templateText]
  exact hopen

/-- Where a brace or a line feed comes first, it did so before. -/
theorem head?_templateText (text : List Char) (ending : Ending) (rest : List Char) {c : Char}
    (hc : c = '\x7b' ∨ c = '\n') :
    (templateText text ++ ending.mark ++ rest).head? = some c ↔ text.head? = some c := by
  have hother : c ≠ '\\' ∧ c ≠ backtick ∧ c ≠ '$' := by
    rcases hc with rfl | rfl <;> decide
  cases text with
  | nil =>
      refine iff_of_false ?_ (by simp)
      intro hhead
      rcases head?_mark ending rest hhead with heq | heq
      · exact hother.2.1 heq
      · exact hother.2.2 heq
  | cons d after =>
      by_cases hopen : ∃ more, d = '$' ∧ after = '\x7b' :: more
      · obtain ⟨more, rfl, rfl⟩ := hopen
        simp [templateText, hother.1.symm, hother.2.2.symm]
      · rw [templateText_cons fun more heq hafter => hopen ⟨more, heq, hafter⟩]
        split
        · next hescaped =>
            have hd : d ≠ c := by
              rintro rfl
              simp [hother.1, hother.2.1] at hescaped
            simp [hother.1.symm, hd]
        · simp

theorem readStatic?_templateText (text : List Char) (ending : Ending) (rest : List Char) :
    readStatic? (templateText text ++ ending.mark ++ rest) =
      some (unifyLineEnds text, ending, rest) := by
  induction text using templateText.induct with
  | case1 => exact readStatic?_mark ending rest
  | case2 after ih =>
      have hbrace : '\x7b' ≠ backtick := by decide
      rw [templateText, List.cons_append, List.cons_append, List.cons_append, List.cons_append,
        List.cons_append, List.cons_append, readStatic?_escape _ rfl (by decide),
        readStatic?_cons (by decide) (fun heq => absurd heq (by decide)), if_neg hbrace, ih]
      simp [isPassedOver, unifyLineEnds, cooked]
  | case3 c after hopen hescaped ih =>
      have hc : templateEscape? c = some [c] ∧ c ≠ '\r' := by
        simp only [Bool.or_eq_true, decide_eq_true_eq] at hescaped
        rcases hescaped with rfl | rfl <;> decide
      rw [templateText_cons hopen, if_pos hescaped, List.cons_append, List.cons_append,
        List.cons_append, List.cons_append, readStatic?_escape _ hc.1 hc.2, ih]
      simp [isPassedOver, unifyLineEnds, cooked, hc.2]
  | case4 c after hopen hplain ih =>
      have hdollar : c = '$' →
          (templateText after ++ ending.mark ++ rest).head? ≠ some '\x7b' := by
        rw [Ne, head?_templateText after ending rest (.inl rfl), List.head?_eq_some_iff]
        rintro heq ⟨more, hafter⟩
        exact hopen more heq hafter
      have hc : c ≠ '\\' ∧ c ≠ backtick := by simpa using hplain
      have hpassed : isPassedOver c (templateText after ++ ending.mark ++ rest) =
          isPassedOver c after := by
        unfold isPassedOver
        rw [Bool.eq_iff_iff]
        simp only [Bool.and_eq_true, decide_eq_true_eq,
          head?_templateText after ending rest (.inr rfl)]
      rw [templateText_cons hopen, if_neg hplain, List.cons_append, List.cons_append,
        readStatic?_cons hc.1 hdollar, if_neg hc.2, hpassed, ih, unifyLineEnds]
      split <;> rfl

/-! Literals. -/

/-- What stands in a literal behind the backtick, or behind the brace that closes a substitution: static
text to the end, or static text in front of an expression in braces. -/
inductive IsTemplateTail (IsExpression : List Char → Prop) :
    List Char → List Char → List (List Char × List Char) → Prop
  | close {raw text : List Char} (hread : readStatic? raw = some (text, .close, [])) :
      IsTemplateTail IsExpression raw text []
  | substitution {raw text expression rest next : List Char} {spans : List (List Char × List Char)}
      (hread : readStatic? raw = some (text, .substitution, expression ++ '\x7d' :: rest))
      (hexpression : IsExpression expression)
      (hrest : IsTemplateTail IsExpression rest next spans) :
      IsTemplateTail IsExpression raw text ((expression, next) :: spans)

/-- A template literal, with its first static text, and each expression with the static text behind
it. -/
def IsTemplate (IsExpression : List Char → Prop) (literal text : List Char)
    (spans : List (List Char × List Char)) : Prop :=
  ∃ raw, literal = backtick :: raw ∧ IsTemplateTail IsExpression raw text spans

/-- The literal that is written, behind its backtick. -/
def writtenTail (first : List Char) : List (List Char × List Char) → List Char
  | [] => templateText first ++ Ending.close.mark ++ []
  | (expression, next) :: spans =>
      templateText first ++ Ending.substitution.mark ++
        (expression ++ '\x7d' :: writtenTail next spans)

variable {IsExpression : List Char → Prop}

/-- A literal is read in one way, if no expression is part of another one up to a closing brace. -/
theorem IsTemplateTail.unique {raw text other : List Char}
    {spans others : List (List Char × List Char)}
    (hclosed : ∀ first rest second last, IsExpression first → IsExpression second →
      first ++ '\x7d' :: rest = second ++ '\x7d' :: last → first = second)
    (hread : IsTemplateTail IsExpression raw text spans)
    (hother : IsTemplateTail IsExpression raw other others) : text = other ∧ spans = others := by
  induction hread generalizing other others with
  | close hread =>
      cases hother with
      | close hother =>
          cases hread.symm.trans hother
          exact ⟨rfl, rfl⟩
      | substitution hother => cases hread.symm.trans hother
  | substitution hread hexpression hrest ih =>
      cases hother with
      | close hother => cases hread.symm.trans hother
      | substitution hother hnext hmore =>
          have hsame := hread.symm.trans hother
          simp only [Option.some.injEq, Prod.mk.injEq, true_and] at hsame
          obtain ⟨rfl, hsame⟩ := hsame
          obtain rfl := hclosed _ _ _ _ hexpression hnext hsame
          obtain ⟨-, rfl⟩ := List.cons.inj (List.append_cancel_left hsame)
          obtain ⟨rfl, rfl⟩ := ih hmore
          exact ⟨rfl, rfl⟩

theorem isTemplateTail_written (first : List Char) {spans : List (List Char × List Char)}
    (hspans : ∀ span ∈ spans, IsExpression span.1) :
    IsTemplateTail IsExpression (writtenTail first spans) (unifyLineEnds first)
      (spans.map fun span => (span.1, unifyLineEnds span.2)) := by
  induction spans generalizing first with
  | nil => exact .close (readStatic?_templateText first .close [])
  | cons span spans ih =>
      obtain ⟨hspan, hspans⟩ := List.forall_mem_cons.mp hspans
      exact .substitution (readStatic?_templateText first .substitution _) hspan
        (ih span.2 hspans)

/-- What is written is read in one way. -/
theorem of_isTemplateTail_written {first text : List Char}
    {spans found : List (List Char × List Char)}
    (hread : IsTemplateTail IsExpression (writtenTail first spans) text found)
    (hexpressions : found.map Prod.fst = spans.map Prod.fst) :
    text = unifyLineEnds first ∧
      found = spans.map (fun span => (span.1, unifyLineEnds span.2)) ∧
      ∀ span ∈ spans, IsExpression span.1 := by
  induction spans generalizing first text found with
  | nil =>
      rw [List.map_nil, List.map_eq_nil_iff] at hexpressions
      subst hexpressions
      cases hread with
      | close hread =>
          cases hread.symm.trans (readStatic?_templateText first .close [])
          exact ⟨rfl, rfl, List.forall_mem_nil _⟩
  | cons span spans ih =>
      cases hread with
      | close hread => cases hexpressions
      | substitution hread hexpression hrest =>
          obtain ⟨rfl, hothers⟩ := List.cons.inj hexpressions
          have hsame := hread.symm.trans (readStatic?_templateText first .substitution
            (span.1 ++ '\x7d' :: writtenTail span.2 spans))
          simp only [Option.some.injEq, Prod.mk.injEq, List.append_cancel_left_eq,
            List.cons.injEq, true_and] at hsame
          obtain ⟨rfl, rfl⟩ := hsame
          obtain ⟨rfl, rfl, hspans⟩ := ih hrest hothers
          exact ⟨rfl, rfl, List.forall_mem_cons.mpr ⟨hexpression, hspans⟩⟩

theorem map_unifyLineEnds_eq_self_iff {spans : List (List Char × List Char)} :
    spans.map (fun span => (span.1, unifyLineEnds span.2)) = spans ↔
      ∀ span ∈ spans, '\r' ∉ span.2 := by
  have hspan : ∀ span : List Char × List Char,
      (span.1, unifyLineEnds span.2) = span ↔ '\r' ∉ span.2 := by
    intro span
    rw [← unifyLineEnds_eq_self_iff, Prod.ext_iff]
    exact and_iff_right rfl
  calc spans.map (fun span => (span.1, unifyLineEnds span.2)) = spans
      ↔ spans.map (fun span => (span.1, unifyLineEnds span.2)) = spans.map id := by
        rw [List.map_id]
    _ ↔ ∀ span ∈ spans, '\r' ∉ span.2 := by
        rw [List.map_inj_left]
        exact forall₂_congr fun span _ => hspan span

/-- A literal is read as it is meant when no carriage return stands in its static text. -/
theorem isTemplateTail_written_iff {first : List Char} {spans : List (List Char × List Char)} :
    IsTemplateTail IsExpression (writtenTail first spans) first spans ↔
      (∀ piece ∈ first :: spans.map Prod.snd, '\r' ∉ piece) ∧
        ∀ span ∈ spans, IsExpression span.1 := by
  rw [List.forall_mem_cons, List.forall_mem_map]
  constructor
  · intro hread
    obtain ⟨hfirst, hsame, hspans⟩ := of_isTemplateTail_written hread rfl
    exact ⟨⟨unifyLineEnds_eq_self_iff.mp hfirst.symm,
      map_unifyLineEnds_eq_self_iff.mp hsame.symm⟩, hspans⟩
  · rintro ⟨⟨hfirst, hpieces⟩, hspans⟩
    have hread := isTemplateTail_written first hspans
    rwa [unifyLineEnds_eq_self_iff.mpr hfirst, map_unifyLineEnds_eq_self_iff.mpr hpieces] at hread

end Script

namespace Segment

/-! Texts in pieces. -/

/-- What may stand between the braces of a reference. -/
structure IsInner (between : List Char) : Prop where
  filled : between ≠ []
  plain : ∀ c ∈ between, isBrace c = false

theorem isInner_iff {between : List Char} :
    IsInner between ↔ between ≠ [] ∧ ∀ c ∈ between, isBrace c = false :=
  ⟨fun hinner => ⟨hinner.filled, hinner.plain⟩, fun ⟨hfilled, hplain⟩ => ⟨hfilled, hplain⟩⟩

instance (between : List Char) : Decidable (IsInner between) :=
  decidable_of_iff ((!between.isEmpty && between.all fun c => !isBrace c) = true) <| by
    rw [isInner_iff]
    simp

def HoldsReference (text : List Char) : Prop :=
  ∃ between, IsInner between ∧ referenceTo between <:+: text

/-- A text cut at references: the piece in front, and what the braces of each reference hold with the
piece behind it. -/
structure Cut where
  first : List Char
  spans : List (List Char × List Char)

namespace Cut

def textOf (spans : List (List Char × List Char)) : List Char :=
  spans.flatMap fun span => referenceTo span.1 ++ span.2

def text (cut : Cut) : List Char :=
  cut.first ++ textOf cut.spans

def pieces (cut : Cut) : List (List Char) :=
  cut.first :: cut.spans.map Prod.snd

/-- The text is cut at all its references. -/
structure IsExact (cut : Cut) (text : List Char) : Prop where
  text : cut.text = text
  inner : ∀ span ∈ cut.spans, IsInner span.1
  pieces : ∀ piece ∈ cut.pieces, ¬HoldsReference piece

def plainPart : List Char → List Segment
  | [] => []
  | c :: rest => [.plain (c :: rest)]

def segments (cut : Cut) : List Segment :=
  plainPart cut.first ++ cut.spans.flatMap fun span =>
    .reference (nameOf span.1) :: plainPart span.2

theorem consPlain_segments (c : Char) (first : List Char) (spans : List (List Char × List Char)) :
    consPlain c (segments ⟨first, spans⟩) = segments ⟨c :: first, spans⟩ := by
  cases first with
  | nil => cases spans <;> rfl
  | cons d rest => rfl

theorem text_reference (between next : List Char) (spans : List (List Char × List Char)) :
    text ⟨[], (between, next) :: spans⟩ = referenceTo between ++ text ⟨next, spans⟩ := by
  simp [text, textOf]

theorem not_holdsReference {text : List Char} (hplain : '\x7b' ∉ text) :
    ¬HoldsReference text := by
  rintro ⟨between, -, hwithin⟩
  exact hplain (hwithin.subset List.mem_cons_self)

theorem IsExact.nil : IsExact ⟨[], []⟩ [] where
  text := rfl
  inner := List.forall_mem_nil _
  pieces := List.forall_mem_singleton.mpr (not_holdsReference List.not_mem_nil)

/-- In front of a reference stands a cut without a piece of its own. -/
theorem IsExact.cons_reference {first after between : List Char}
    {spans : List (List Char × List Char)} (hcut : IsExact ⟨first, spans⟩ after)
    (hbetween : IsInner between) :
    IsExact ⟨[], (between, first) :: spans⟩ (referenceTo between ++ after) where
  text := by rw [text_reference, hcut.text]
  inner := List.forall_mem_cons.mpr ⟨hbetween, hcut.inner⟩
  pieces := List.forall_mem_cons.mpr ⟨not_holdsReference List.not_mem_nil, hcut.pieces⟩

theorem IsExact.cons_plain {c : Char} {first rest : List Char}
    {spans : List (List Char × List Char)} (hcut : IsExact ⟨first, spans⟩ rest)
    (hnone : reference? (c :: rest) = none) : IsExact ⟨c :: first, spans⟩ (c :: rest) where
  text := by
    rw [← hcut.text]
    rfl
  inner := hcut.inner
  pieces := by
    obtain ⟨hfirst, hothers⟩ := List.forall_mem_cons.mp hcut.pieces
    refine List.forall_mem_cons.mpr ⟨?_, hothers⟩
    rintro ⟨between, hbetween, hwithin⟩
    rcases List.infix_cons_iff.mp hwithin with ⟨after, hprefix⟩ | hwithin
    · have htext : c :: rest = referenceTo between ++ (after ++ textOf spans) := by
        rw [← List.append_assoc, hprefix, ← hcut.text]
        rfl
      rw [htext, reference?_referenceTo hbetween.filled hbetween.plain] at hnone
      cases hnone
    · exact hfirst ⟨between, hbetween, hwithin⟩

theorem scan_of_reference? {c : Char} {rest name after : List Char}
    (hfound : reference? (c :: rest) = some (name, after)) :
    scan (c :: rest) = .reference name :: scan after := by
  rw [scan]
  split
  · next other hother =>
      cases hother.symm.trans hfound
      rfl
  · next hnone => cases hnone.symm.trans hfound

theorem scan_of_none {c : Char} {rest : List Char} (hnone : reference? (c :: rest) = none) :
    scan (c :: rest) = consPlain c (scan rest) := by
  rw [scan]
  split
  · next hfound => cases hnone.symm.trans hfound
  · rfl

/-- Scanning a text cuts it at all its references. -/
theorem exists_isExact (text : List Char) :
    ∃ cut : Cut, cut.IsExact text ∧ scan text = cut.segments := by
  induction text using scan.induct with
  | case1 => exact ⟨⟨[], []⟩, .nil, by rw [scan]; rfl⟩
  | case2 c rest name after hfound hlt ih =>
      obtain ⟨⟨first, spans⟩, hcut, hscan⟩ := ih
      obtain ⟨between, htext, hne, hbraces, rfl⟩ := exists_of_reference? hfound
      refine ⟨⟨[], (between, first) :: spans⟩, ?_, ?_⟩
      · rw [htext]
        exact hcut.cons_reference ⟨hne, hbraces⟩
      · rw [scan_of_reference? hfound, hscan]
        rfl
  | case3 c rest hnone ih =>
      obtain ⟨⟨first, spans⟩, hcut, hscan⟩ := ih
      refine ⟨⟨c :: first, spans⟩, hcut.cons_plain hnone, ?_⟩
      rw [scan_of_none hnone, hscan, consPlain_segments]

theorem referenceTo_eq_cons (between : List Char) :
    referenceTo between = '\x7b' :: '\x7b' :: (between ++ ['\x7d', '\x7d']) :=
  rfl

/-- Two references do not overlap. -/
theorem not_overlap {first before rest : List Char} (hfirst : IsInner first)
    (hbefore : before ≠ []) (hrest : rest ≠ []) (hcut : referenceTo first = before ++ rest)
    (second after last : List Char) : rest ++ after ≠ referenceTo second ++ last := by
  intro hsame
  obtain ⟨d, more, rfl⟩ := List.exists_cons_of_ne_nil hrest
  obtain ⟨c, earlier, rfl⟩ := List.exists_cons_of_ne_nil hbefore
  rw [referenceTo_eq_cons] at hsame
  obtain ⟨rfl, hmore⟩ := List.cons.inj hsame
  rw [referenceTo_eq_cons] at hcut
  obtain ⟨rfl, hinner⟩ := List.cons.inj hcut
  cases earlier with
  | nil =>
      -- the second opening brace of the one would be the first of the other
      obtain ⟨-, rfl⟩ := List.cons.inj hinner
      obtain ⟨e, others, rfl⟩ := List.exists_cons_of_ne_nil hfirst.filled
      obtain ⟨rfl, -⟩ := List.cons.inj hmore
      have hplain := hfirst.plain _ List.mem_cons_self
      cases hplain
  | cons e others =>
      -- no brace opens between the braces
      obtain ⟨-, hinner⟩ := List.cons.inj hinner
      have hbrace : '\x7b' ∈ first ++ ['\x7d', '\x7d'] := by
        rw [hinner]
        exact List.mem_append_right _ List.mem_cons_self
      rcases List.mem_append.mp hbrace with hmem | hmem
      · have hplain := hfirst.plain _ hmem
        cases hplain
      · simp at hmem

/-- A reference does not start in one piece and end behind it. -/
theorem reference?_piece {first : List Char} (hne : first ≠ []) (hpiece : ¬HoldsReference first)
    (spans : List (List Char × List Char)) :
    reference? (first ++ textOf spans) = none := by
  by_contra hfound
  obtain ⟨⟨name, after⟩, hfound⟩ := Option.ne_none_iff_exists'.mp hfound
  obtain ⟨between, htext, hfilled, hplain, -⟩ := exists_of_reference? hfound
  have hbetween : IsInner between := ⟨hfilled, hplain⟩
  rcases List.append_eq_append_iff.mp htext with ⟨rest, hcut, hspans⟩ | ⟨rest, hfirst, -⟩
  · by_cases hrest : rest = []
    · exact hpiece ⟨between, hbetween, [], [], by rw [hcut, hrest]; simp⟩
    · cases spans with
      | nil => exact hrest (List.append_eq_nil_iff.mp hspans.symm).1
      | cons span others =>
          rw [textOf, List.flatMap_cons, List.append_assoc] at hspans
          exact not_overlap hbetween hne hrest hcut _ _ _ hspans.symm
  · exact hpiece ⟨between, hbetween, [], rest, by rw [hfirst, List.nil_append]⟩

theorem IsExact.of_reference? {text name after : List Char} {cut : Cut} (hcut : cut.IsExact text)
    (hfound : reference? text = some (name, after)) :
    ∃ between first spans, cut = ⟨[], (between, first) :: spans⟩ ∧
      text = referenceTo between ++ after ∧ IsExact ⟨first, spans⟩ after := by
  obtain ⟨first, spans⟩ := cut
  obtain ⟨htext, hinner, hpieces⟩ := hcut
  obtain ⟨hfirst, hpieces⟩ := List.forall_mem_cons.mp hpieces
  by_cases hne : first = []
  · subst hne
    cases spans with
    | nil =>
        cases htext
        cases hfound
    | cons span others =>
        obtain ⟨hspan, hinner⟩ := List.forall_mem_cons.mp hinner
        have hcut : referenceTo span.1 ++ Cut.text ⟨span.2, others⟩ = text :=
          (text_reference span.1 span.2 others).symm.trans htext
        rw [← hcut, reference?_referenceTo hspan.filled hspan.plain, Option.some.injEq,
          Prod.mk.injEq] at hfound
        obtain ⟨-, rfl⟩ := hfound
        exact ⟨span.1, span.2, others, rfl, hcut.symm, rfl, hinner, hpieces⟩
  · have hnone := reference?_piece hne hfirst spans
    rw [← htext] at hfound
    cases hnone.symm.trans hfound

theorem IsExact.of_none {c : Char} {rest : List Char} {cut : Cut} (hcut : cut.IsExact (c :: rest))
    (hnone : reference? (c :: rest) = none) :
    ∃ first, cut.first = c :: first ∧ IsExact ⟨first, cut.spans⟩ rest := by
  obtain ⟨first, spans⟩ := cut
  obtain ⟨htext, hinner, hpieces⟩ := hcut
  obtain ⟨hfirst, hpieces⟩ := List.forall_mem_cons.mp hpieces
  cases first with
  | nil =>
      cases spans with
      | nil => cases htext
      | cons span others =>
          have hspan := hinner span List.mem_cons_self
          have hcut : referenceTo span.1 ++ Cut.text ⟨span.2, others⟩ = c :: rest :=
            (text_reference span.1 span.2 others).symm.trans htext
          rw [← hcut, reference?_referenceTo hspan.filled hspan.plain] at hnone
          cases hnone
  | cons d first =>
      obtain ⟨rfl, hrest⟩ := List.cons.inj htext
      refine ⟨first, rfl, hrest, hinner, List.forall_mem_cons.mpr ⟨?_, hpieces⟩⟩
      rintro ⟨between, hbetween, hwithin⟩
      exact hfirst ⟨between, hbetween, hwithin.trans (List.suffix_cons d first).isInfix⟩

/-- There is one way to cut a text at all its references. -/
theorem IsExact.unique {text : List Char} {cut other : Cut} (hcut : cut.IsExact text)
    (hother : other.IsExact text) : cut = other := by
  induction text using scan.induct generalizing cut other with
  | case1 =>
      have hempty : ∀ cut : Cut, cut.IsExact [] → cut = ⟨[], []⟩ := by
        rintro ⟨first, spans⟩ ⟨htext, -, -⟩
        obtain ⟨hfirst, hspans⟩ := List.append_eq_nil_iff.mp htext
        cases hfirst
        cases spans with
        | nil => rfl
        | cons span others => cases hspans
      rw [hempty cut hcut, hempty other hother]
  | case2 c rest name after hfound hlt ih =>
      obtain ⟨between, first, spans, rfl, htext, hrest⟩ := hcut.of_reference? hfound
      obtain ⟨inner, second, others, rfl, hsame, hmore⟩ := hother.of_reference? hfound
      rw [htext, List.append_cancel_right_eq] at hsame
      cases referenceTo_injective hsame
      cases ih hrest hmore
      rfl
  | case3 c rest hnone ih =>
      obtain ⟨first, hfirst, hrest⟩ := hcut.of_none hnone
      obtain ⟨second, hsecond, hmore⟩ := hother.of_none hnone
      obtain ⟨rfl, hspans⟩ := Cut.mk.inj (ih hrest hmore)
      obtain ⟨_, _⟩ := cut
      obtain ⟨_, _⟩ := other
      cases hfirst
      cases hsecond
      cases hspans
      rfl

end Cut

theorem any_isReference_scan_iff {text : List Char} :
    (scan text).any isReference = true ↔ HoldsReference text := by
  obtain ⟨⟨first, spans⟩, hcut, hscan⟩ := Cut.exists_isExact text
  rw [hscan]
  cases spans with
  | nil =>
      have htext : first = text := by
        rw [← hcut.text]
        exact (List.append_nil first).symm
      have hnone : ¬HoldsReference first := hcut.pieces first List.mem_cons_self
      rw [htext] at hnone
      refine iff_of_false ?_ hnone
      cases first <;> exact Bool.false_ne_true
  | cons span spans =>
      have hinner : IsInner span.1 := hcut.inner span List.mem_cons_self
      refine iff_of_true ?_ ⟨span.1, hinner, first, span.2 ++ Cut.textOf spans, ?_⟩
      · simp [Cut.segments, isReference]
      · rw [← hcut.text]
        simp [Cut.text, Cut.textOf]

theorem holdsReference_of_whole? {text name : List Char}
    (hwhole : whole? (Text.trim text) = some name) : HoldsReference text := by
  obtain ⟨between, htrim, hne, hbraces, -⟩ := exists_of_whole? hwhole
  obtain ⟨left, right, htext, -, -⟩ := Text.exists_of_trim text
  exact ⟨between, ⟨hne, hbraces⟩, left, right, by rw [← htrim, ← htext]⟩

end Segment

namespace Scope

open Segment Script

/-! What a text with references resolves to. -/

/-- The expression for what stands between the braces of a reference. -/
def resolvedInner (scope : Scope) (between : List Char) : List Char :=
  (scope.resolveReference (String.ofList between)).toList

def resolvedSpans (scope : Scope) (cut : Cut) : List (List Char × List Char) :=
  cut.spans.map fun span => (scope.resolvedInner span.1, span.2)

theorem templatePart_reference (scope : Scope) (between : List Char) :
    scope.templatePart (.reference (nameOf between)) =
      Ending.substitution.mark ++ (scope.resolvedInner between ++ ['\x7d']) := by
  have hname : scope.resolveReference (String.ofList (nameOf between)) =
      scope.resolveReference (String.ofList between) := by
    apply resolveReference_trimmed
    rw [trimmed, trimmed, String.toList_ofList, String.toList_ofList, trim_nameOf]
  rw [templatePart, hname, Ending.mark, resolvedInner, List.cons_append, List.cons_append,
    List.cons_append, List.cons_append, List.nil_append]

theorem flatMap_plainPart (scope : Scope) (text : List Char) :
    (Cut.plainPart text).flatMap scope.templatePart = templateText text := by
  cases text with
  | nil => rw [Cut.plainPart, List.flatMap_nil, templateText]
  | cons c rest => rw [Cut.plainPart, List.flatMap_singleton, templatePart]

theorem flatMap_segments (scope : Scope) (first : List Char)
    (spans : List (List Char × List Char)) :
    (Cut.segments ⟨first, spans⟩).flatMap scope.templatePart ++ [backtick] =
      writtenTail first (scope.resolvedSpans ⟨first, spans⟩) := by
  induction spans generalizing first with
  | nil =>
      rw [Cut.segments, List.flatMap_nil, List.append_nil, flatMap_plainPart, resolvedSpans,
        List.map_nil, writtenTail, List.append_nil]
      rfl
  | cons span spans ih =>
      have hnext := ih span.2
      rw [Cut.segments, List.flatMap_append, flatMap_plainPart] at hnext
      rw [Cut.segments, List.flatMap_append, flatMap_plainPart, List.flatMap_cons,
        List.cons_append, List.flatMap_cons, templatePart_reference, List.flatMap_append,
        flatMap_plainPart, resolvedSpans, List.map_cons, writtenTail]
      simp only [List.append_assoc, List.cons_append, List.nil_append]
      rw [← List.append_assoc (templateText span.2), hnext]
      rfl

theorem toList_templateLiteral (scope : Scope) (cut : Cut) :
    (scope.templateLiteral cut.segments).toList =
      backtick :: writtenTail cut.first (scope.resolvedSpans cut) := by
  rw [templateLiteral, String.toList_ofList, List.cons_append, flatMap_segments]

theorem ofMarker?_of_brace {text : String} (hbrace : '\x7b' ∈ text.toList) :
    Placeholder.ofMarker? text = none := by
  have hmarkers : ∀ kind ∈ Placeholder.all, '\x7b' ∉ kind.marker.toList := by decide
  apply List.find?_eq_none.mpr
  intro kind hmem hmarker
  apply hmarkers kind hmem
  rw [beq_iff_eq.mp hmarker]
  exact hbrace

theorem resolve_of_holdsReference {text : String} {cut : Cut} (hcut : cut.IsExact text.toList)
    (hscan : scan text.toList = cut.segments) (hspans : cut.spans ≠ [])
    (hpart : ∀ between, IsInner between → Text.trim text.toList ≠ referenceTo between)
    (scope : Scope) : scope.resolve (.text text) = scope.templateLiteral cut.segments := by
  obtain ⟨first, spans⟩ := cut
  obtain ⟨span, others, rfl⟩ := List.exists_cons_of_ne_nil hspans
  have hbrace : '\x7b' ∈ text.toList := by
    rw [← hcut.text]
    simp [Cut.text, Cut.textOf, referenceTo]
  have hwhole : whole? (Text.trim text.toList) = none := by
    by_contra hwhole
    obtain ⟨name, hname⟩ := Option.ne_none_iff_exists'.mp hwhole
    obtain ⟨between, htext, hne, hbraces, -⟩ := exists_of_whole? hname
    exact hpart between ⟨hne, hbraces⟩ htext
  have hany : (Cut.segments ⟨first, span :: others⟩).any isReference = true := by
    simp [Cut.segments, isReference]
  rw [resolve, ofMarker?_of_brace hbrace, Option.isSome_none, if_neg Bool.false_ne_true]
  unfold resolveText
  dsimp only
  rw [toList_trimmed, hwhole, hscan]
  dsimp only
  rw [if_pos hany]

/-- The reference is an expression already, or has accesses, which are copied as they are. -/
def IsCopied (between : List Char) : Prop :=
  isQualified (trimmed (String.ofList between)) = true ∨
    ¬IsWhole (trimmed (String.ofList between))

section

variable {IsExpression : List Char → Prop}
  (hmember : ∀ root ∈ [contextRoot, storedRoot], ∀ name,
    IsExpression (Script.member root name).toList)
include hmember

theorem isExpression_resolvedInner (scope : Scope) {between : List Char}
    (hplain : ¬IsCopied between) : IsExpression (scope.resolvedInner between) := by
  obtain ⟨hunqualified, hwhole⟩ := not_or.mp hplain
  rw [not_not] at hwhole
  unfold resolvedInner resolveReference
  rw [if_neg hunqualified, splitHead_of_isWhole hwhole]
  simp only [String.ofList_toList, String.ofList_nil, String.append_empty]
  exact hmember _ (rootOf_mem scope _) _

/-- A text with references, which is not one as a whole, becomes a template literal.  It is read back
as the pieces of the text with the resolved references between, if no carriage return stands in a piece,
and what is copied of a reference is an expression; a carriage return is read as a line feed. -/
theorem template_read_iff (scope : Scope) {text : String}
    (hholds : HoldsReference text.toList)
    (hpart : ∀ between, IsInner between → Text.trim text.toList ≠ referenceTo between) :
    ∃ cut : Cut, (∀ other : Cut, other.IsExact text.toList ↔ other = cut) ∧ cut.spans ≠ [] ∧
      (IsTemplate IsExpression (scope.resolve (.text text)).toList cut.first
          (scope.resolvedSpans cut) ↔
        (∀ piece ∈ cut.pieces, '\r' ∉ piece) ∧
          ∀ span ∈ cut.spans, IsCopied span.1 → IsExpression (scope.resolvedInner span.1)) ∧
      ((∀ span ∈ cut.spans, IsCopied span.1 → IsExpression (scope.resolvedInner span.1)) →
        IsTemplate IsExpression (scope.resolve (.text text)).toList (unifyLineEnds cut.first)
          ((scope.resolvedSpans cut).map fun span => (span.1, unifyLineEnds span.2))) := by
  obtain ⟨cut, hcut, hscan⟩ := Cut.exists_isExact text.toList
  have hspans : cut.spans ≠ [] := by
    intro hnone
    have htext : cut.first = text.toList := by
      rw [← hcut.text, Cut.text, hnone]
      exact (List.append_nil _).symm
    apply hcut.pieces cut.first List.mem_cons_self
    rwa [htext]
  have hpieces : (scope.resolvedSpans cut).map Prod.snd = cut.spans.map Prod.snd := by
    simp [resolvedSpans]
  have hexpressions : (∀ span ∈ scope.resolvedSpans cut, IsExpression span.1) ↔
      ∀ span ∈ cut.spans, IsCopied span.1 → IsExpression (scope.resolvedInner span.1) := by
    have hspan (between : List Char) : IsExpression (scope.resolvedInner between) ↔
        (IsCopied between → IsExpression (scope.resolvedInner between)) := by
      by_cases hcopied : IsCopied between
      · exact (imp_iff_right hcopied).symm
      · exact iff_of_true (isExpression_resolvedInner hmember scope hcopied)
          fun hother => absurd hother hcopied
    simp only [resolvedSpans, List.forall_mem_map]
    exact forall₂_congr fun span _ => hspan span.1
  have hliteral := toList_templateLiteral scope cut
  rw [← resolve_of_holdsReference hcut hscan hspans hpart scope] at hliteral
  refine ⟨cut, fun other => ⟨fun hother => hother.unique hcut, fun heq => heq ▸ hcut⟩, hspans,
    ?_, ?_⟩
  · rw [← hexpressions, Cut.pieces, ← hpieces, ← isTemplateTail_written_iff]
    constructor
    · rintro ⟨raw, hraw, hread⟩
      cases hliteral.symm.trans hraw
      exact hread
    · intro hread
      exact ⟨_, hliteral, hread⟩
  · intro hcopied
    exact ⟨_, hliteral, isTemplateTail_written cut.first (hexpressions.mpr hcopied)⟩

end

/-- Accesses behind one of the two roots. -/
inductive IsChain : List Char → Prop
  | root {root : String} (hroot : root ∈ [contextRoot, storedRoot]) : IsChain root.toList
  | access {chain : List Char} (hchain : IsChain chain) (name : List Char) :
      IsChain (chain ++ accessText name)

theorem isChain_member :
    ∀ root ∈ [contextRoot, storedRoot], ∀ name, IsChain (Script.member root name).toList := by
  intro root hroot name
  rw [Script.toList_member]
  exact .access (.root hroot) name.toList

def receipt : String :=
  "Pay \x7b\x7b total \x7d\x7d for `\x7b\x7bcart['unit price']\x7d\x7d\\"

def receiptCut : Cut where
  first := "Pay ".toList
  spans := [(" total ".toList, " for `".toList), ("cart['unit price']".toList, "\\".toList)]

theorem receiptCut_isExact : receiptCut.IsExact receipt.toList where
  text := by decide +kernel
  inner := by decide +kernel
  pieces := by
    have hbraces : ∀ piece ∈ receiptCut.pieces, '\x7b' ∉ piece := by decide +kernel
    intro piece hmem
    exact Cut.not_holdsReference (hbraces piece hmem)

def receiptScope : Scope := [⟨"total", .storedResult, "transition:pay"⟩]

theorem receipt_read :
    IsTemplate IsChain (receiptScope.resolve (.text receipt)).toList "Pay ".toList
      [("storedVars.total".toList, " for `".toList),
        ("ctx.data.cart['unit price']".toList, "\\".toList)] := by
  have hholds : HoldsReference receipt.toList :=
    ⟨" total ".toList, by decide +kernel, "Pay ".toList,
      " for `\x7b\x7bcart['unit price']\x7d\x7d\\".toList, by decide +kernel⟩
  have hpart : ∀ between, IsInner between → Text.trim receipt.toList ≠ referenceTo between := by
    intro between _ heq
    have hhead : (Text.trim receipt.toList).head? ≠ some '\x7b' := by decide +kernel
    rw [heq] at hhead
    exact hhead rfl
  obtain ⟨cut, hone, -, hread, -⟩ := template_read_iff isChain_member receiptScope hholds hpart
  obtain rfl := (hone _).mp receiptCut_isExact
  have hspans : receiptScope.resolvedSpans receiptCut =
      [("storedVars.total".toList, " for `".toList),
        ("ctx.data.cart['unit price']".toList, "\\".toList)] := by decide +kernel
  have hstored : IsChain "storedVars.total".toList := by
    have hspelled : "storedVars.total" = Script.member storedRoot "total" := by decide +kernel
    rw [hspelled]
    exact isChain_member storedRoot (by decide) "total"
  have hcontext : IsChain "ctx.data.cart['unit price']".toList := by
    have hspelled : "ctx.data.cart['unit price']".toList =
        (Script.member contextRoot "cart").toList ++ accessText "unit price".toList := by
      decide +kernel
    rw [hspelled]
    exact .access (isChain_member contextRoot (by decide) "cart") _
  have hchains : ∀ span ∈ receiptCut.spans, IsChain (receiptScope.resolvedInner span.1) := by
    have hmapped : ∀ span ∈ receiptScope.resolvedSpans receiptCut, IsChain span.1 := by
      rw [hspans, List.forall_mem_cons, List.forall_mem_singleton]
      exact ⟨hstored, hcontext⟩
    simpa only [resolvedSpans, List.forall_mem_map] using hmapped
  rw [← hspans]
  exact hread.mpr ⟨by decide +kernel, fun span hmem _ => hchains span hmem⟩

/-- A carriage return in a piece is not read back, whatever an expression is. -/
theorem not_template_read_return :
    HoldsReference "a\r\x7b\x7bb\x7d\x7d".toList ∧
      Cut.IsExact ⟨"a\r".toList, [("b".toList, [])]⟩ "a\r\x7b\x7bb\x7d\x7d".toList ∧
      ¬IsTemplate (fun _ => True) (resolve [] (.text "a\r\x7b\x7bb\x7d\x7d")).toList "a\r".toList
        [("ctx.data.b".toList, [])] := by
  have hinner : IsInner "b".toList := by decide
  have hpieces : ∀ piece ∈ ["a\r".toList, []], '\x7b' ∉ piece := by decide
  refine ⟨⟨"b".toList, hinner, "a\r".toList, [], by decide⟩,
    ⟨by decide, List.forall_mem_singleton.mpr hinner,
      fun piece hmem => Cut.not_holdsReference (hpieces piece hmem)⟩, ?_⟩
  rintro ⟨raw, hraw, hread⟩
  have hwritten : raw = writtenTail "a\r".toList [("ctx.data.b".toList, [])] := by
    have hliteral : (resolve [] (.text "a\r\x7b\x7bb\x7d\x7d")).toList =
        backtick :: writtenTail "a\r".toList [("ctx.data.b".toList, [])] := by decide +kernel
    exact (List.cons.inj (hraw.symm.trans hliteral)).2
  rw [hwritten] at hread
  have hplain := (isTemplateTail_written_iff.mp hread).1 _ List.mem_cons_self
  exact hplain (by decide)

end Scope

end ScreenFlow
