import ScreenFlow.UnitText.Reading
import Mathlib.Data.List.Basic

/-!
What a reader does with given tokens, wherever they stand in a text: it reads some of them, leaves
the others, and gives a result with a given property.
-/

namespace ScreenFlow.UnitText

namespace Reader

/-- The kinds of the tokens that a cursor has in front of it. -/
def ahead (cursor : Cursor) : List Token :=
  cursor.rest.map Lexeme.token

/-- In front of the tokens followed by `rest`, the reader reads the tokens and gives a result with
the property. -/
def Reads (reader : Reader α) (tokens rest : List Token) (Result : α → Prop) : Prop :=
  ∀ cursor : Cursor, ahead cursor = tokens ++ rest →
    ∃ result after, reader.run cursor = some (result, after) ∧ ahead after = rest ∧ Result result

theorem reads_pure {result : α} {Result : α → Prop} (hresult : Result result) (rest : List Token) :
    Reads (pure result) [] rest Result :=
  fun cursor hcursor => ⟨result, cursor, rfl, hcursor, hresult⟩

theorem Reads.bind {reader : Reader α} {next : α → Reader β} {tokens more rest : List Token}
    {First : α → Prop} {Result : β → Prop} (hfirst : Reads reader tokens (more ++ rest) First)
    (hnext : ∀ result, First result → Reads (next result) more rest Result) :
    Reads (reader >>= next) (tokens ++ more) rest Result := by
  intro cursor hcursor
  obtain ⟨result, middle, hrun, hmiddle, hresult⟩ :=
    hfirst cursor (by rw [hcursor, List.append_assoc])
  obtain ⟨last, after, hlast, hafter, hproperty⟩ := hnext result hresult middle hmiddle
  refine ⟨last, after, ?_, hafter, hproperty⟩
  rw [StateT.run_bind, hrun]
  exact hlast

/-- A step that reads nothing. -/
theorem Reads.look {reader : Reader α} {next : α → Reader β} {tokens rest : List Token}
    {First : α → Prop} {Result : β → Prop} (hfirst : Reads reader [] (tokens ++ rest) First)
    (hnext : ∀ result, First result → Reads (next result) tokens rest Result) :
    Reads (reader >>= next) tokens rest Result :=
  hfirst.bind hnext

/-- A last step that makes something of the result. -/
theorem Reads.finish {reader : Reader α} {next : α → Reader β} {tokens rest : List Token}
    {First : α → Prop} {Result : β → Prop} (hfirst : Reads reader tokens rest First)
    (hnext : ∀ result, First result → Reads (next result) [] rest Result) :
    Reads (reader >>= next) tokens rest Result := by
  have hbind : Reads (reader >>= next) (tokens ++ []) rest Result := Reads.bind hfirst hnext
  rwa [List.append_nil] at hbind

theorem Reads.imp {reader : Reader α} {tokens rest : List Token} {First Result : α → Prop}
    (hreads : Reads reader tokens rest First) (himp : ∀ result, First result → Result result) :
    Reads reader tokens rest Result := by
  intro cursor hcursor
  obtain ⟨result, after, hrun, hafter, hresult⟩ := hreads cursor hcursor
  exact ⟨result, after, hrun, hafter, himp result hresult⟩

/-- The kind of the next token. -/
def headOf (tokens : List Token) : Token :=
  tokens.head?.getD .finish

theorem reads_peek (rest : List Token) : Reads peek [] rest (· = headOf rest) := by
  intro cursor hcursor
  refine ⟨headOf rest, cursor, ?_, hcursor, rfl⟩
  have hhead : (cursor.rest.head?.map (·.token)).getD .finish = headOf rest := by
    rw [headOf, ← List.nil_append rest, ← hcursor, ahead, List.head?_map]
  rw [← hhead]
  rfl

theorem reads_peekSecond (rest : List Token) :
    Reads peekSecond [] rest (· = headOf (rest.drop 1)) := by
  intro cursor hcursor
  refine ⟨headOf (rest.drop 1), cursor, ?_, hcursor, rfl⟩
  have hhead : ((cursor.rest.drop 1).head?.map (·.token)).getD .finish = headOf (rest.drop 1) := by
    rw [headOf, ← List.nil_append rest, ← hcursor, ahead, ← List.map_drop, List.head?_map]
  rw [← hhead]
  rfl

theorem reads_place (rest : List Token) : Reads place [] rest fun _ => True :=
  fun cursor hcursor => ⟨_, cursor, rfl, hcursor, trivial⟩

theorem reads_refuse {token : Token} {rest : List Token} (hne : headOf rest ≠ token) :
    Reads (accept token) [] rest (· = false) := by
  refine (reads_peek _).look fun _ hpeek => ?_
  rw [hpeek, List.nil_append, if_neg hne]
  exact reads_pure (by rfl) rest

end Reader

end ScreenFlow.UnitText
