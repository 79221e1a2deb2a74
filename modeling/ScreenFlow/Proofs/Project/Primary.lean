import ScreenFlow.Project.Incoming
import ScreenFlow.Proofs.Effect
import ScreenFlow.Proofs.Naming.StateName

/-!
The primary one among the transitions that lead into a state.  The first that leaves the declared
previous state is chosen without a word; where there is none it is the first of all, and the others
are noted as alternatives to it.
-/

namespace ScreenFlow

namespace Desk

/-- The desk with further notes, and nothing else changed. -/
def noting (desk : Desk) (notes : List Degradation) : Desk :=
  { desk with ledger := { desk.ledger with degradations := desk.ledger.degradations ++ notes } }

@[simp] theorem noting_nil (desk : Desk) : desk.noting [] = desk := by
  simp [noting]

theorem noting_injective (desk : Desk) : Function.Injective desk.noting := by
  intro first second hsame
  have hnotes : desk.ledger.degradations ++ first = desk.ledger.degradations ++ second :=
    congrArg (fun after => after.ledger.degradations) hsame
  exact List.append_cancel_left hnotes

end Desk

namespace Incoming

/-- The transition leaves the previous state, if one is declared. -/
def LeavesDeclared (previous : Option String) (transition : Transition) : Prop :=
  ∃ state ∈ previous, StateName.denotes transition.fromState state = true

instance (previous : Option String) (transition : Transition) :
    Decidable (LeavesDeclared previous transition) :=
  inferInstanceAs (Decidable (∃ state ∈ previous, _))

/-- The note that one transition is taken where others might be. -/
def ambiguity (target : String) (taken : Transition) (others : List Transition) : Degradation where
  component := "transition"
  subject := "primary transition into " ++ target
  fallback := Transition.departure taken.fromState taken.event
  alternatives := others.map fun other => Transition.departure other.fromState other.event

/-- Which of some transitions is the primary one, and what is noted about it. -/
inductive PrimaryChoice (target : String) (previous : Option String) :
    List Transition → Option Transition → List Degradation → Prop
  | nothing : PrimaryChoice target previous [] none []
  | declared {before after : List Transition} {chosen : Transition}
      (hleaves : LeavesDeclared previous chosen)
      (hbefore : ∀ other ∈ before, ¬ LeavesDeclared previous other) :
      PrimaryChoice target previous (before ++ chosen :: after) (some chosen) []
  | only {single : Transition} (hother : ¬ LeavesDeclared previous single) :
      PrimaryChoice target previous [single] (some single) []
  | first {first second : Transition} {rest : List Transition}
      (hothers : ∀ other ∈ first :: second :: rest, ¬ LeavesDeclared previous other) :
      PrimaryChoice target previous (first :: second :: rest) (some first)
        [ambiguity target first (second :: rest)]

theorem exists_primaryChoice (target : String) (previous : Option String)
    (transitions : List Transition) :
    ∃ primary notes, PrimaryChoice target previous transitions primary notes := by
  cases hfind : transitions.find? fun transition => LeavesDeclared previous transition with
  | some chosen =>
      obtain ⟨hleaves, before, after, rfl, hbefore⟩ := List.find?_eq_some_iff_append.mp hfind
      exact ⟨some chosen, [], .declared (by simpa using hleaves) (by simpa using hbefore)⟩
  | none =>
      have hothers : ∀ other ∈ transitions, ¬ LeavesDeclared previous other := by
        simpa using hfind
      match transitions with
      | [] => exact ⟨none, [], .nothing⟩
      | [single] => exact ⟨some single, [], .only (hothers single List.mem_cons_self)⟩
      | first :: second :: rest => exact ⟨some first, _, .first hothers⟩

/-- No transition leaves a state without a name, so that to declare one is to declare none. -/
theorem find?_leavesDeclared (previous : Option String) (transitions : List Transition) :
    ((previous.filter (· != "")).bind fun state =>
        transitions.find? fun transition => StateName.denotes transition.fromState state) =
      transitions.find? fun transition => LeavesDeclared previous transition := by
  cases previous with
  | none =>
      symm
      apply List.find?_eq_none.mpr
      simp [LeavesDeclared]
  | some state =>
      by_cases hempty : state = ""
      · subst hempty
        symm
        apply List.find?_eq_none.mpr
        simp [LeavesDeclared, StateName.denotes_empty]
      · simp [LeavesDeclared, Option.filter, hempty]

section

variable {previous : Option String}

theorem find?_eq_some {before after : List Transition} {chosen : Transition}
    (hleaves : LeavesDeclared previous chosen)
    (hbefore : ∀ other ∈ before, ¬ LeavesDeclared previous other) :
    (before ++ chosen :: after).find? (fun transition => LeavesDeclared previous transition) =
      some chosen :=
  List.find?_eq_some_iff_append.mpr
    ⟨by simpa using hleaves, before, after, rfl, by simpa using hbefore⟩

theorem find?_eq_none {transitions : List Transition}
    (hothers : ∀ other ∈ transitions, ¬ LeavesDeclared previous other) :
    transitions.find? (fun transition => LeavesDeclared previous transition) = none := by
  simpa using hothers

end

namespace PrimaryChoice

variable {target : String} {previous : Option String} {transitions : List Transition}
  {primary : Option Transition} {notes : List Degradation}
  (hchoice : PrimaryChoice target previous transitions primary notes)

include hchoice

theorem eq_none_iff : primary = none ↔ transitions = [] := by
  cases hchoice <;> simp

theorem mem : ∀ chosen ∈ primary, chosen ∈ transitions := by
  cases hchoice <;> simp

/-- The choice is what comes out, and its notes are all that is added to the desk. -/
theorem run (desk : Desk) :
    (ExceptT.run (choosePrimary target transitions previous)).run desk =
      (.ok primary, desk.noting notes) := by
  unfold choosePrimary
  dsimp only
  rw [find?_leavesDeclared]
  cases hchoice with
  | nothing =>
      rw [Desk.noting_nil]
      rfl
  | declared hleaves hbefore =>
      rw [find?_eq_some hleaves hbefore, Desk.noting_nil]
      rfl
  | only hother =>
      rw [find?_eq_none (List.forall_mem_singleton.mpr hother), Desk.noting_nil]
      rfl
  | first hothers =>
      rw [find?_eq_none hothers]
      rfl

theorem unique {other : Option Transition} {otherNotes : List Degradation}
    (hother : PrimaryChoice target previous transitions other otherNotes) :
    other = primary ∧ otherNotes = notes := by
  -- Both choices tell what comes out of the same run, whichever desk it starts with.
  obtain ⟨desk⟩ : Nonempty Desk := ⟨{ session := { files := {} } }⟩
  have hsame := (hother.run desk).symm.trans (hchoice.run desk)
  obtain ⟨hprimary, hdesk⟩ := Prod.mk.inj hsame
  exact ⟨Except.ok.inj hprimary, desk.noting_injective hdesk⟩

end PrimaryChoice

/-- The primary transition and the notes about it are determined by the transitions and the declared
previous state; there is none just when there are no transitions, and it is always one of them. -/
theorem choosePrimary_determined (target : String) (transitions : List Transition)
    (previous : Option String) (desk : Desk) :
    ∃ primary notes,
      (ExceptT.run (choosePrimary target transitions previous)).run desk =
          (.ok primary, desk.noting notes) ∧
        PrimaryChoice target previous transitions primary notes ∧
        (∀ other otherNotes, PrimaryChoice target previous transitions other otherNotes →
          other = primary ∧ otherNotes = notes) ∧
        (primary = none ↔ transitions = []) ∧ ∀ chosen ∈ primary, chosen ∈ transitions := by
  obtain ⟨primary, notes, hchoice⟩ := exists_primaryChoice target previous transitions
  exact ⟨primary, notes, hchoice.run desk, hchoice, fun _ _ => hchoice.unique,
    hchoice.eq_none_iff, hchoice.mem⟩

end Incoming

end ScreenFlow
