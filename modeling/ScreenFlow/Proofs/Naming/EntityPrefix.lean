import ScreenFlow.Proofs.Naming.StateName
import ScreenFlow.Text.Class

/-!
The name of a state behind the name of the entity it belongs to.  The two denote the same state
exactly when the name of the state is one word, since all but the last word of a name is left out
together with the entity.
-/

namespace ScreenFlow.StateName

/-! What counts of a name. -/

theorem length_normal_append (first second : List Char) :
    (normal (first ++ second)).length = (normal first).length + (normal second).length := by
  unfold normal
  rw [List.filter_append, Text.length_lower_append]

theorem normal_eq_nil_iff {name : List Char} :
    normal name = [] ↔ ∀ c ∈ name, isIgnored c = true := by
  unfold normal
  rw [Text.lower_eq_nil_iff, List.filter_eq_nil_iff]
  simp

section

variable {name before piece after : List Char}

theorem lastSegment_of_lastPiece (hlast : Text.LastPiece isSegmentEnd name before piece after) :
    lastSegment name = piece := by
  unfold lastSegment
  rw [hlast.splitRuns, List.getLast?_concat]
  rfl

theorem exists_lastSegment (hsome : ∃ c ∈ name, isSegmentEnd c = false) :
    ∃ before after, Text.LastPiece isSegmentEnd name before (lastSegment name) after := by
  obtain ⟨before, piece, after, hlast⟩ := Text.exists_lastPiece hsome
  rw [← lastSegment_of_lastPiece hlast] at hlast
  exact ⟨before, after, hlast⟩

/-- What stands before the end of a segment does not count for the last one. -/
theorem lastSegment_behind {mark : Char} (hmark : isSegmentEnd mark = true) (entity : List Char)
    (hsome : ∃ c ∈ name, isSegmentEnd c = false) :
    lastSegment (entity ++ mark :: name) = lastSegment name := by
  obtain ⟨before, piece, after, hlast⟩ := Text.exists_lastPiece hsome
  rw [lastSegment_of_lastPiece hlast]
  unfold lastSegment
  rw [Text.splitRuns_append hmark, hlast.splitRuns, ← List.append_assoc, List.getLast?_concat]
  rfl

theorem length_normal_of_lastPiece
    (hlast : Text.LastPiece isSegmentEnd name before piece after) :
    (normal name).length =
      (normal before).length + (normal piece).length + (normal after).length := by
  rw [hlast.text_eq, length_normal_append, length_normal_append]

theorem length_normal_lastSegment_le (hsome : ∃ c ∈ name, isSegmentEnd c = false) :
    (normal (lastSegment name)).length ≤ (normal name).length := by
  obtain ⟨before, after, hlast⟩ := exists_lastSegment hsome
  have hlength := length_normal_of_lastPiece hlast
  omega

theorem length_normal_behind {entity : List Char} (hentity : ∃ c ∈ entity, isIgnored c = false)
    (mark : Char) (name : List Char) :
    (normal name).length < (normal (entity ++ mark :: name)).length := by
  have hcounts : normal entity ≠ [] := by
    rw [Ne, normal_eq_nil_iff]
    simpa using hentity
  have hpos := List.length_pos_iff.mpr hcounts
  rw [List.append_cons, length_normal_append, length_normal_append]
  omega

end

/-! Names that are written in word characters. -/

def blankCodes : List Nat :=
  [9, 10, 11, 12, 13, 28, 29, 30, 31, 32, 0x85, 0xA0, 0x1680, 0x2000, 0x2001, 0x2002, 0x2003,
    0x2004, 0x2005, 0x2006, 0x2007, 0x2008, 0x2009, 0x200A, 0x2028, 0x2029, 0x202F, 0x205F, 0x3000]

theorem isWord_blankCodes : ∀ n ∈ blankCodes, Text.isWord (Char.ofNat n) = false := by
  decide +kernel

theorem isBlank_of_isWord {c : Char} (hword : Text.isWord c = true) : Text.isBlank c = false := by
  rw [Bool.eq_false_iff]
  intro hblank
  have hcode : c.toNat ∈ blankCodes := by
    simp only [Text.isBlank, Bool.or_eq_true, Bool.and_eq_true, decide_eq_true_eq,
      beq_iff_eq] at hblank
    simp only [blankCodes, List.mem_cons, List.not_mem_nil, or_false]
    omega
  have hnot := isWord_blankCodes _ hcode
  rw [Char.ofNat_toNat, hword] at hnot
  cases hnot

theorem ne_mark_of_isWord {c : Char} (hword : Text.isWord c = true) :
    c ≠ '.' ∧ c ≠ '-' ∧ c ≠ ':' := by
  refine ⟨?_, ?_, ?_⟩
  all_goals
    rintro rfl
    cases hword

theorem isIgnored_of_isWord {c : Char} (hword : Text.isWord c = true) :
    isIgnored c = decide (c = '_') := by
  obtain ⟨-, hdash, -⟩ := ne_mark_of_isWord hword
  simp [isIgnored, isBlank_of_isWord hword, hdash]

theorem isSegmentEnd_of_isWord {c : Char} (hword : Text.isWord c = true) :
    isSegmentEnd c = decide (c = '_') := by
  obtain ⟨hdot, hdash, hcolon⟩ := ne_mark_of_isWord hword
  simp [isSegmentEnd, hdot, hdash, hcolon]

/-- One word, with low lines at most at its ends. -/
def IsOneWord (name : List Char) : Prop :=
  ∃ before word after, name = before ++ word ++ after ∧ (∀ c ∈ before ++ after, c = '_') ∧
    '_' ∉ word

/-- A name in word characters, not all of them low lines. -/
structure IsWritten (name : List Char) : Prop where
  word : ∀ c ∈ name, Text.isWord c = true
  some : ∃ c ∈ name, c ≠ '_'

namespace IsWritten

variable {name : List Char} (hname : IsWritten name)

include hname

theorem exists_inSegment : ∃ c ∈ name, isSegmentEnd c = false := by
  obtain ⟨c, hc, hne⟩ := hname.some
  refine ⟨c, hc, ?_⟩
  rw [isSegmentEnd_of_isWord (hname.word c hc)]
  exact decide_eq_false hne

theorem lastPiece_of_word {before word after : List Char} (htext : name = before ++ word ++ after)
    (hends : ∀ c ∈ before ++ after, c = '_') (hword : '_' ∉ word) :
    Text.LastPiece isSegmentEnd name before word after where
  text_eq := htext
  ne_nil := by
    rintro rfl
    obtain ⟨c, hc, hne⟩ := hname.some
    rw [htext, List.append_nil] at hc
    exact hne (hends c hc)
  whole c hc := by
    have hmem : c ∈ name := htext ▸ List.mem_append_left _ (List.mem_append_right _ hc)
    rw [isSegmentEnd_of_isWord (hname.word c hmem)]
    exact decide_eq_false fun heq => hword (heq ▸ hc)
  starts c hc := by
    rw [hends c (List.mem_append_left _ (List.mem_of_getLast? hc))]
    rfl
  ends c hc := by
    rw [hends c (List.mem_append_right _ hc)]
    rfl

/-- The last segment is all that counts of a name just when the name is one word. -/
theorem normal_lastSegment_eq_iff : normal (lastSegment name) = normal name ↔ IsOneWord name := by
  constructor
  · intro hsame
    obtain ⟨before, after, hlast⟩ := exists_lastSegment hname.exists_inSegment
    have hbefore : normal before = [] := by
      have hlength := length_normal_of_lastPiece hlast
      rw [hsame] at hlength
      exact List.length_eq_zero_iff.mp (by omega)
    refine ⟨before, lastSegment name, after, hlast.text_eq, fun c hc => ?_, fun hline => ?_⟩
    · have hmem : c ∈ name := by
        rw [hlast.text_eq]
        rcases List.mem_append.mp hc with hc | hc
        · exact List.mem_append_left _ (List.mem_append_left _ hc)
        · exact List.mem_append_right _ hc
      have hword := hname.word c hmem
      rcases List.mem_append.mp hc with hc | hc
      · have hignored := normal_eq_nil_iff.mp hbefore c hc
        rw [isIgnored_of_isWord hword] at hignored
        exact of_decide_eq_true hignored
      · have hend := hlast.ends c hc
        rw [isSegmentEnd_of_isWord hword] at hend
        exact of_decide_eq_true hend
    · cases hlast.whole '_' hline
  · rintro ⟨before, word, after, htext, hends, hword⟩
    have hnone (part : List Char) (hpart : ∀ c ∈ part, c = '_') :
        part.filter (fun c => !isIgnored c) = [] := by
      apply List.filter_eq_nil_iff.mpr
      intro c hc
      rw [hpart c hc]
      decide
    obtain ⟨hbefore, hafter⟩ := List.forall_mem_append.mp hends
    rw [lastSegment_of_lastPiece (hname.lastPiece_of_word htext hends hword), htext]
    unfold normal
    rw [List.filter_append, List.filter_append, hnone before hbefore, hnone after hafter,
      List.nil_append, List.append_nil]

theorem matches_behind_iff {entity : List Char} (hentity : ∃ c ∈ entity, isIgnored c = false)
    {mark : Char} (hmark : isSegmentEnd mark = true) :
    (normal (entity ++ mark :: name) = normal name ∨
        normal (lastSegment (entity ++ mark :: name)) = normal name ∨
        normal (entity ++ mark :: name) = normal (lastSegment name)) ↔ IsOneWord name := by
  have hlonger := length_normal_behind hentity mark name
  have hshorter := length_normal_lastSegment_le hname.exists_inSegment
  have hwhole : normal (entity ++ mark :: name) ≠ normal name := fun heq => by
    rw [heq] at hlonger
    omega
  have hlast : normal (entity ++ mark :: name) ≠ normal (lastSegment name) := fun heq => by
    rw [heq] at hlonger
    omega
  rw [or_iff_right hwhole, or_iff_left hlast, lastSegment_behind hmark _ hname.exists_inSegment,
    hname.normal_lastSegment_eq_iff]

end IsWritten

/-- A name of a state and the same name behind an entity, with a low line or a dot between them,
denote the same state exactly when the name is one word. -/
theorem denotes_behind_iff {entity state : String}
    (hentity : ∃ c ∈ entity.toList, Text.isWord c = true ∧ c ≠ '_')
    (hstate : IsWritten state.toList) :
    ∀ mark ∈ ["_", "."],
      (denotes (entity ++ mark ++ state) state = true ↔ IsOneWord state.toList) ∧
        (denotes state (entity ++ mark ++ state) = true ↔ IsOneWord state.toList) := by
  intro mark hmark
  obtain ⟨sign, hsign, hsegment⟩ : ∃ sign, mark.toList = [sign] ∧ isSegmentEnd sign = true := by
    rcases List.mem_cons.mp hmark with rfl | hmark
    · exact ⟨'_', rfl, rfl⟩
    · rw [List.mem_singleton.mp hmark]
      exact ⟨'.', rfl, rfl⟩
  have hcounts : ∃ c ∈ entity.toList, isIgnored c = false := by
    obtain ⟨c, hc, hword, hne⟩ := hentity
    exact ⟨c, hc, by rw [isIgnored_of_isWord hword]; exact decide_eq_false hne⟩
  have hname : (entity ++ mark ++ state).toList = entity.toList ++ sign :: state.toList := by
    simp [hsign]
  have hstateNe : state ≠ "" := by
    rintro rfl
    obtain ⟨c, hc, -⟩ := hstate.some
    cases hc
  have hnameNe : entity ++ mark ++ state ≠ "" := fun hempty => by
    rw [hempty] at hname
    simp at hname
  rw [denotes_comm state, and_self_iff, denotes_iff, hname,
    hstate.matches_behind_iff hcounts hsegment, and_iff_right hnameNe, and_iff_right hstateNe]

theorem accepted_behind_booking :
    (∃ c ∈ "booking".toList, Text.isWord c = true ∧ c ≠ '_') ∧ IsWritten "accepted".toList ∧
      IsOneWord "accepted".toList ∧
      ∀ mark ∈ ["_", "."],
        denotes ("booking" ++ mark ++ "accepted") "accepted" = true ∧
          denotes "accepted" ("booking" ++ mark ++ "accepted") = true := by
  have hentity : ∃ c ∈ "booking".toList, Text.isWord c = true ∧ c ≠ '_' :=
    ⟨'b', by decide, by decide, by decide⟩
  have hstate : IsWritten "accepted".toList :=
    ⟨List.all_eq_true.mp (by decide), 'a', by decide, by decide⟩
  have hword : IsOneWord "accepted".toList :=
    ⟨[], "accepted".toList, [], by simp, by simp, by decide⟩
  refine ⟨hentity, hstate, hword, fun mark hmark => ?_⟩
  obtain ⟨hbehind, hbefore⟩ := denotes_behind_iff hentity hstate mark hmark
  exact ⟨hbehind.mpr hword, hbefore.mpr hword⟩

theorem not_denotes_behind_severalWords :
    ¬ ∀ entity state : String, entity ≠ "" → (∀ c ∈ entity.toList, c.isAlpha = true) →
      (∀ c ∈ state.toList, c.isAlphanum = true ∨ c = '_') →
      (∃ c ∈ state.toList, c.isAlpha = true) →
      ∀ mark ∈ ["_", "."],
        denotes (entity ++ mark ++ state) state = true ∧
          denotes state (entity ++ mark ++ state) = true := by
  intro hall
  obtain ⟨hbehind, -⟩ := hall "booking" "checked_in" (by decide) (by simp) (by simp) (by simp)
    "_" (by decide)
  exact absurd hbehind (by decide +kernel)

end ScreenFlow.StateName
