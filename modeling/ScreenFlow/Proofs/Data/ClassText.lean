import ScreenFlow.Proofs.Data.Tokens

/-!
The text of a class that gives one attribute a value on each of its lines.  The text is cut into the
tokens of its lines, with one indented block, exactly when all data in it fits.
-/

namespace ScreenFlow

open UnitText

/-- A word that can be a name. -/
structure IsIdentifier (word : String) : Prop where
  isName : Lexer.isName word.toList = true
  notReserved : reserved.contains word = false

/-- An attribute of a class, and the data that it stands for. -/
abbrev DataField := String × Data

namespace DataField

def assignmentChars (field : DataField) : List Char :=
  field.1.toList ++ ' ' :: '=' :: ' ' :: field.2.spelled .literal

def line (field : DataField) : List Char :=
  ' ' :: ' ' :: ' ' :: ' ' :: (field.assignmentChars ++ ['\n'])

/-- Whether the data of the attribute can be read where no bracket is open. -/
def fits (field : DataField) : Bool :=
  field.2.fits 0

end DataField

namespace UnitText.Lexer

/-! Lines. -/

/-- A token that is no line end and no change of indentation. -/
def IsPlainToken (token : Token) : Prop :=
  [Token.newline, .indent, .dedent].contains token = false

theorem endLine_of_plain {lexer : Lexer} {lexemes before : List Lexeme} {rest : List Char}
    (hdone : lexer.done = lexemes.reverse ++ before) (hne : lexemes ≠ [])
    (hplain : ∀ lexeme ∈ lexemes, IsPlainToken lexeme.token) (hbrackets : lexer.brackets = [])
    (hrest : lexer.rest = '\n' :: rest) :
    lexer.endLine 1 = { lexer with
      rest, place := lexer.place + 1, atLineStart := true
      done := ⟨.newline, ⟨lexer.place, lexer.place + 1⟩⟩ :: lexer.done } := by
  have hlast : lexemes.reverse ≠ [] := mt List.reverse_eq_nil_iff.mp hne
  obtain ⟨last, others, heq⟩ := List.exists_cons_of_ne_nil hlast
  have hmem : last ∈ lexemes := List.mem_reverse.mp (by rw [heq]; exact List.mem_cons_self)
  have hkind := hplain last hmem
  rw [IsPlainToken] at hkind
  rw [heq, List.cons_append] at hdone
  unfold endLine
  simp only [hdone, hbrackets, hkind]
  simp [emit, advance, hdone, hrest, hbrackets]

/-- The lexer stands in front of a line, inside blocks of the given columns. -/
structure AtStart (lexer : Lexer) (columns : List Column) (text : List Char) : Prop where
  atLineStart : lexer.atLineStart = true
  brackets_eq : lexer.brackets = []
  columns_eq : lexer.columns = columns
  rest_eq : lexer.rest = text

/-- A line that is cut into tokens ends in front of the next one. -/
theorem Cuts.endLine {chars rest : List Char} {tokens : List Token}
    (hcuts : Cuts chars ('\n' :: rest) [] [] tokens) (hne : tokens ≠ [])
    (hplain : ∀ token ∈ tokens, IsPlainToken token) {lexer : Lexer}
    (hinside : lexer.Inside [] (chars ++ '\n' :: rest)) :
    ∃ (count : Nat) (after : Lexer) (lexemes : List Lexeme), count ≤ chars.length + 1 ∧
      lexemes.map Lexeme.token = tokens ++ [.newline] ∧
      after.done = lexemes.reverse ++ lexer.done ∧ after.AtStart lexer.columns rest ∧
      Steps count lexer after := by
  obtain ⟨count, place, lexemes, hcount, rfl, hsteps⟩ := hcuts.2 lexer hinside
  have hfound : lexemes ≠ [] := fun heq => hne (by rw [heq]; rfl)
  have hkinds : ∀ lexeme ∈ lexemes, IsPlainToken lexeme.token := fun lexeme hmem =>
    hplain _ (List.mem_map_of_mem hmem)
  obtain ⟨middle, hmiddle⟩ : ∃ middle : Lexer, middle = { lexer with
    rest := '\n' :: rest, place, brackets := [], done := lexemes.reverse ++ lexer.done } := ⟨_, rfl⟩
  have hrest : middle.rest = '\n' :: rest := by rw [hmiddle]
  have hdone : middle.done = lexemes.reverse ++ lexer.done := by rw [hmiddle]
  have hend := endLine_of_plain hdone hfound hkinds (by rw [hmiddle]) hrest
  have hstep : middle.step? = some (middle.endLine 1) := by
    have hline : middle.atLineStart = false := by rw [hmiddle]; exact hinside.inLine
    unfold step?
    simp [hline, hrest, isGap, lineEnd?]
  refine ⟨count + 1, middle.endLine 1, lexemes ++ [⟨.newline, ⟨place, place + 1⟩⟩], by omega,
    by simp, ?_, ?_, ?_⟩
  · rw [hend, hmiddle]
    simp
  · rw [hend, hmiddle]
    exact ⟨rfl, rfl, rfl, rfl⟩
  · rw [← hmiddle] at hsteps
    exact hsteps.trans (.step (by rw [hrest]; simp) hstep (.refl _))

/-- The indentation of the lines of the class. -/
def inner : Column := ⟨4, 4⟩

/-- Going on from here gives the tokens, or none, with fuel for twice as many steps as there are
characters. -/
def EndsWith (lexer : Lexer) (tokens : Option (List Token)) : Prop :=
  ∃ count, count ≤ 2 * lexer.rest.length ∧
    ∀ fuel, (run (count + (fuel + 1)) lexer).map (List.map Lexeme.token) = tokens

theorem EndsWith.before {count : Nat} {lexer middle : Lexer} {tokens : Option (List Token)}
    (hends : EndsWith middle tokens) (hsteps : Steps count lexer middle)
    (hcount : count + 2 * middle.rest.length ≤ 2 * lexer.rest.length) : EndsWith lexer tokens := by
  obtain ⟨others, hothers, hrun⟩ := hends
  refine ⟨count + others, by omega, fun fuel => ?_⟩
  rw [Nat.add_assoc, hsteps.run]
  exact hrun fuel

theorem Stops.endsWith {lexer : Lexer} {brackets text : List Char} (hstops : Stops text brackets)
    (hinside : lexer.Inside brackets text) : EndsWith lexer none := by
  obtain ⟨count, last, hcount, hsteps, hmore, hstep⟩ := hstops lexer hinside
  refine ⟨count, by rw [hinside.rest_eq]; omega, fun fuel => ?_⟩
  have hne : ¬(last.rest.isEmpty = true) := mt List.isEmpty_iff.mp hmore
  rw [hsteps.run, run, if_neg hne, hstep]
  rfl

end UnitText.Lexer

end ScreenFlow
