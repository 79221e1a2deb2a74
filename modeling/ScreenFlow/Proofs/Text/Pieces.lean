import ScreenFlow.Text.Pieces
import Mathlib.Data.List.Induction

/-!
The pieces of a text between its separators.  A separator cuts a text into two that are cut each for
itself, so that the last piece of a text depends on nothing that stands before it.
-/

namespace ScreenFlow.Text

variable {isSeparator : Char → Bool}

theorem splitRuns_go_cons (piece : List Char) (c : Char) (rest : List Char) :
    splitRuns.go isSeparator piece (c :: rest) =
      if isSeparator c then
        if piece.isEmpty then splitRuns isSeparator rest
        else piece.reverse :: splitRuns isSeparator rest
      else splitRuns.go isSeparator (c :: piece) rest := by
  rw [splitRuns.go]
  rfl

/-! All pieces. -/

theorem flatten_splitRuns_go (piece text : List Char) :
    (splitRuns.go isSeparator piece text).flatten =
      piece.reverse ++ text.filter fun c => !isSeparator c := by
  induction text generalizing piece with
  | nil => cases piece <;> simp [splitRuns.go]
  | cons c rest ih =>
      have hstart := ih []
      rw [splitRuns_go_cons]
      unfold splitRuns
      cases hc : isSeparator c <;> cases piece <;> simp [hc, hstart, ih]

/-- The pieces hold the text without its separators. -/
theorem flatten_splitRuns (isSeparator : Char → Bool) (text : List Char) :
    (splitRuns isSeparator text).flatten = text.filter fun c => !isSeparator c :=
  flatten_splitRuns_go [] text

theorem ne_nil_of_mem_splitRuns_go {piece text run : List Char}
    (hrun : run ∈ splitRuns.go isSeparator piece text) : run ≠ [] := by
  induction text generalizing piece with
  | nil => cases piece <;> simp_all [splitRuns.go]
  | cons c rest ih =>
      rw [splitRuns_go_cons] at hrun
      split at hrun
      · split at hrun
        · exact ih hrun
        · next hpiece =>
            rcases List.mem_cons.mp hrun with rfl | hrun
            · simpa using hpiece
            · exact ih hrun
      · exact ih hrun

theorem splitRuns_go_map {change : Char → Char}
    (hchange : ∀ c, isSeparator (change c) = isSeparator c) (piece text : List Char) :
    splitRuns.go isSeparator (piece.map change) (text.map change) =
      (splitRuns.go isSeparator piece text).map (List.map change) := by
  induction text generalizing piece with
  | nil => cases piece <;> simp [splitRuns.go]
  | cons c rest ih =>
      have hstart := ih []
      have hnext := ih (c :: piece)
      rw [List.map_nil] at hstart
      rw [List.map_cons] at hnext ⊢
      rw [splitRuns_go_cons, splitRuns_go_cons, hchange, hnext]
      unfold splitRuns
      rw [hstart]
      cases isSeparator c <;> cases piece <;> simp

/-- A change of characters that leaves the separators what they are changes the pieces alone. -/
theorem splitRuns_map {change : Char → Char}
    (hchange : ∀ c, isSeparator (change c) = isSeparator c) (text : List Char) :
    splitRuns isSeparator (text.map change) =
      (splitRuns isSeparator text).map (List.map change) :=
  splitRuns_go_map hchange [] text

theorem splitRuns_go_append {c : Char} (hc : isSeparator c = true)
    (piece first second : List Char) :
    splitRuns.go isSeparator piece (first ++ c :: second) =
      splitRuns.go isSeparator piece first ++ splitRuns isSeparator second := by
  induction first generalizing piece with
  | nil =>
      rw [List.nil_append, splitRuns_go_cons, hc]
      cases piece <;> simp [splitRuns.go]
  | cons d rest ih =>
      have hstart := ih []
      rw [List.cons_append, splitRuns_go_cons, splitRuns_go_cons, ih (d :: piece)]
      unfold splitRuns at hstart ⊢
      rw [hstart]
      cases isSeparator d <;> cases piece <;> simp

theorem splitRuns_append {c : Char} (hc : isSeparator c = true) (first second : List Char) :
    splitRuns isSeparator (first ++ c :: second) =
      splitRuns isSeparator first ++ splitRuns isSeparator second :=
  splitRuns_go_append hc [] first second

/-! The last piece. -/

theorem splitRuns_of_separators {text : List Char} (hall : ∀ c ∈ text, isSeparator c = true) :
    splitRuns isSeparator text = [] := by
  induction text with
  | nil => rfl
  | cons c rest ih =>
      obtain ⟨hc, hrest⟩ := List.forall_mem_cons.mp hall
      exact (splitRuns_append hc [] rest).trans (ih hrest)

theorem splitRuns_go_of_whole (piece : List Char) {text : List Char}
    (hne : piece.reverse ++ text ≠ [])
    (hwhole : ∀ c ∈ text, isSeparator c = false) :
    splitRuns.go isSeparator piece text = [piece.reverse ++ text] := by
  induction text generalizing piece with
  | nil => cases piece <;> simp_all [splitRuns.go]
  | cons c rest ih =>
      obtain ⟨hc, hrest⟩ := List.forall_mem_cons.mp hwhole
      have hnext := ih (c :: piece) (by simp) hrest
      rw [splitRuns_go_cons]
      simpa [hc] using hnext

theorem splitRuns_of_whole {text : List Char} (hne : text ≠ [])
    (hwhole : ∀ c ∈ text, isSeparator c = false) : splitRuns isSeparator text = [text] :=
  splitRuns_go_of_whole [] hne hwhole

/-- The last piece of a text, between what stands before it and separators alone. -/
structure LastPiece (isSeparator : Char → Bool) (text before piece after : List Char) : Prop where
  text_eq : text = before ++ piece ++ after
  ne_nil : piece ≠ []
  whole : ∀ c ∈ piece, isSeparator c = false
  starts : ∀ c ∈ before.getLast?, isSeparator c = true
  ends : ∀ c ∈ after, isSeparator c = true

theorem LastPiece.splitRuns {text before piece after : List Char}
    (hlast : LastPiece isSeparator text before piece after) :
    splitRuns isSeparator text = splitRuns isSeparator before ++ [piece] := by
  have hpiece := splitRuns_of_whole hlast.ne_nil hlast.whole
  have hrest : Text.splitRuns isSeparator (piece ++ after) = [piece] := by
    cases after with
    | nil => rwa [List.append_nil]
    | cons c after =>
        obtain ⟨hc, hafter⟩ := List.forall_mem_cons.mp hlast.ends
        rw [splitRuns_append hc, hpiece, splitRuns_of_separators hafter, List.append_nil]
  rw [hlast.text_eq, List.append_assoc]
  rcases List.eq_nil_or_concat before with rfl | ⟨start, c, rfl⟩
  · exact hrest
  · have hc : isSeparator c = true := hlast.starts c (by simp)
    have hbefore :
        Text.splitRuns isSeparator (start.concat c) = Text.splitRuns isSeparator start := by
      rw [List.concat_eq_append, splitRuns_append hc]
      exact List.append_nil _
    rw [hbefore, List.concat_append, splitRuns_append hc, hrest]

theorem exists_lastPiece {text : List Char} (hsome : ∃ c ∈ text, isSeparator c = false) :
    ∃ before piece after, LastPiece isSeparator text before piece after := by
  -- From the end of the text: a separator comes after the last piece, and any other character
  -- belongs to it if nothing comes after it yet.
  induction text using List.reverseRec with
  | nil =>
      obtain ⟨c, hc, -⟩ := hsome
      cases hc
  | append_singleton start c ih =>
      have hnew (hc : isSeparator c = false) (hlast : ∀ d ∈ start.getLast?, isSeparator d = true) :
          LastPiece isSeparator (start ++ [c]) start [c] [] :=
        ⟨by simp, by simp, by simpa using hc, hlast, by simp⟩
      by_cases hstart : ∃ d ∈ start, isSeparator d = false
      · obtain ⟨before, piece, after, hlast⟩ := ih hstart
        cases hc : isSeparator c with
        | true =>
            refine ⟨before, piece, after ++ [c], by simp [hlast.text_eq], hlast.ne_nil,
              hlast.whole, hlast.starts, ?_⟩
            exact List.forall_mem_append.mpr ⟨hlast.ends, by simpa using hc⟩
        | false =>
            rcases List.eq_nil_or_concat after with rfl | ⟨rest, d, rfl⟩
            · refine ⟨before, piece ++ [c], [], by simp [hlast.text_eq], by simp, ?_,
                hlast.starts, by simp⟩
              exact List.forall_mem_append.mpr ⟨hlast.whole, by simpa using hc⟩
            · refine ⟨start, [c], [], hnew hc ?_⟩
              have hd := hlast.ends d (by simp)
              simpa [hlast.text_eq] using hd
      · have hall : ∀ d ∈ start, isSeparator d = true := by simpa using hstart
        have hc : isSeparator c = false := by
          obtain ⟨d, hd, hnot⟩ := hsome
          rcases List.mem_append.mp hd with hd | hd
          · exact absurd ⟨d, hd, hnot⟩ hstart
          · rwa [← List.mem_singleton.mp hd]
        exact ⟨start, [c], [], hnew hc fun d hd => hall d (List.mem_of_getLast? hd)⟩

end ScreenFlow.Text
