import ScreenFlow.Proofs.Text.Blank
import ScreenFlow.Text.Lines

/-!
Lines put together again.  Cutting a text into lines and joining them with line feeds makes a line
feed of every boundary between them, of those too that reading a file leaves alone.
-/

namespace ScreenFlow.Text

/-- Every line boundary becomes one line feed. -/
def feedLines : List Char → List Char
  | [] => []
  | '\r' :: '\n' :: rest => '\n' :: feedLines rest
  | c :: rest => (if isLineEnd c then '\n' else c) :: feedLines rest

theorem isBlank_of_isLineEnd {c : Char} (hend : isLineEnd c = true) : isBlank c = true := by
  simp only [isLineEnd, isBlank, Bool.or_eq_true, Bool.and_eq_true, decide_eq_true_eq,
    beq_iff_eq] at hend ⊢
  omega

theorem splitLinesAux_eq_nil_iff {line text : List Char} :
    splitLinesAux line text = [] ↔ line = [] ∧ text = [] := by
  fun_induction splitLinesAux line text with
  | case1 line hline => simpa using hline
  | case2 line hline => simpa using hline
  | case3 => simp
  | case4 => simp
  | case5 line c rest _ _ ih => simp [ih]

/-- A text that does not end in a line end. -/
def IsOpenEnded (text : List Char) : Prop :=
  ∀ c ∈ text.getLast?, isLineEnd c = false

theorem IsOpenEnded.tail {c : Char} {rest : List Char} (hopen : IsOpenEnded (c :: rest)) :
    IsOpenEnded rest := by
  intro d hd
  refine hopen d ?_
  rw [Option.mem_def, List.getLast?_cons, Option.mem_def.mp hd]
  rfl

theorem IsOpenEnded.ne_nil {c : Char} {rest : List Char} (hopen : IsOpenEnded (c :: rest))
    (hend : isLineEnd c = true) : rest ≠ [] := by
  rintro rfl
  exact Bool.false_ne_true ((hopen c rfl).symm.trans hend)

theorem isOpenEnded_trimRight (text : List Char) : IsOpenEnded (trimRight text) := by
  intro c hc
  obtain ⟨hne, rfl⟩ := List.mem_getLast?_eq_getLast hc
  have hlast := List.rdropWhile_last_not isBlank text hne
  exact Bool.eq_false_iff.mpr fun hend => hlast (isBlank_of_isLineEnd hend)

/-- A boundary that is not the end of the text stands between two lines. -/
theorem intercalate_cons_splitLines (line : List Char) {rest : List Char} (hrest : rest ≠ []) :
    ['\n'].intercalate (line :: splitLines rest) =
      line ++ '\n' :: ['\n'].intercalate (splitLines rest) := by
  have hlines : splitLines rest ≠ [] := fun hnil => hrest (splitLinesAux_eq_nil_iff.mp hnil).2
  rw [List.intercalate_cons_of_ne_nil hlines, List.append_assoc]
  rfl

theorem intercalate_splitLinesAux {line text : List Char} (hopen : IsOpenEnded text) :
    ['\n'].intercalate (splitLinesAux line text) = line.reverse ++ feedLines text := by
  fun_induction splitLinesAux line text with
  | case1 line hline => simp [feedLines, List.isEmpty_iff.mp hline]
  | case2 line hline => simp [feedLines]
  | case3 line rest ih =>
      have hrest : IsOpenEnded rest := hopen.tail.tail
      rw [← splitLines, intercalate_cons_splitLines _ (hopen.tail.ne_nil rfl), splitLines,
        ih hrest]
      rfl
  | case4 line c rest hpair hend ih =>
      rw [← splitLines, intercalate_cons_splitLines _ (hopen.ne_nil hend), splitLines,
        ih hopen.tail, feedLines, if_pos hend]
      · rfl
      · exact hpair
  | case5 line c rest hpair hend ih =>
      rw [ih hopen.tail, feedLines, if_neg hend, List.reverse_cons, List.append_assoc]
      · rfl
      · exact hpair

/-- The lines of a text that does not end in a line end, joined with line feeds. -/
theorem intercalate_splitLines {text : List Char} (hopen : IsOpenEnded text) :
    ['\n'].intercalate (splitLines text) = feedLines text :=
  intercalate_splitLinesAux hopen

/-- Only line feeds and carriage returns end a line. -/
def HasPlainEnds (text : List Char) : Prop :=
  ∀ c ∈ text, isLineEnd c = true → c = '\n' ∨ c = '\r'

instance (text : List Char) : Decidable (HasPlainEnds text) :=
  List.decidableBAll _ text

theorem hasPlainEnds_cons_iff {c : Char} {rest : List Char} :
    HasPlainEnds (c :: rest) ↔
      (isLineEnd c = true → c = '\n' ∨ c = '\r') ∧ HasPlainEnds rest :=
  List.forall_mem_cons

/-- A boundary of any other kind is kept when a file is read, but is a line feed in lines that are
joined. -/
theorem feedLines_eq_unifyLineEnds_iff {text : List Char} :
    feedLines text = unifyLineEnds text ↔ HasPlainEnds text := by
  fun_induction unifyLineEnds text with
  | case1 => simp [feedLines, HasPlainEnds]
  | case2 rest ih =>
      rw [feedLines, List.cons.injEq, ih, hasPlainEnds_cons_iff, hasPlainEnds_cons_iff]
      simp
  | case3 c rest hpair ih =>
      have hhead : (if isLineEnd c then '\n' else c) = (if c = '\r' then '\n' else c) ↔
          (isLineEnd c = true → c = '\n' ∨ c = '\r') := by
        by_cases hreturn : c = '\r'
        · subst hreturn
          decide
        · rw [if_neg hreturn]
          split_ifs with hend <;> simp [hend, hreturn, eq_comm]
      rw [feedLines, List.cons.injEq, ih, hasPlainEnds_cons_iff, hhead]
      exact hpair

end ScreenFlow.Text
