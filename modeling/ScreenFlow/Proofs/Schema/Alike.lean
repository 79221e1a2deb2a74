import ScreenFlow.Proofs.Schema.Accepted
import Mathlib.Data.List.Forall2
import Mathlib.Logic.Relator

/-!
Readings that are alike: both give values that go together, or neither gives any.  What is read part
by part is read alike where its parts are.
-/

namespace ScreenFlow

namespace Reading

variable {α β γ δ : Type}

/-- Both give values that go together by `R`, or neither gives one. -/
inductive Alike (R : α → β → Prop) : Reading α → Reading β → Prop
  | value {a : α} {b : β} (hresult : R a b) : Alike R (.value a) (.value b)
  | refused {first : Reading α} {second : Reading β} (hfirst : first.accepted = false)
      (hsecond : second.accepted = false) : Alike R first second

namespace Alike

variable {R : α → β → Prop} {S : γ → δ → Prop} {first : Reading α} {second : Reading β}

theorem refl (first : Reading α) : Alike Eq first first := by
  cases first with
  | value a => exact .value rfl
  | issues found => exact .refused rfl rfl
  | overflow => exact .refused rfl rfl

theorem of_accepted (hsame : first.accepted = second.accepted)
    (hvalues : ∀ a b, first = .value a → second = .value b → R a b) : Alike R first second := by
  cases first with
  | value a =>
      cases second with
      | value b => exact .value (hvalues a b rfl rfl)
      | issues found => cases hsame
      | overflow => cases hsame
  | issues found => exact .refused rfl (hsame.symm.trans rfl)
  | overflow => exact .refused rfl (hsame.symm.trans rfl)

theorem elim (halike : Alike R first second) :
    (∃ a b, first = .value a ∧ second = .value b ∧ R a b) ∨
      first.accepted = false ∧ second.accepted = false := by
  cases halike with
  | value hresult => exact .inl ⟨_, _, rfl, rfl, hresult⟩
  | refused hfirst hsecond => exact .inr ⟨hfirst, hsecond⟩

theorem value_iff {first second : Reading α} (halike : Alike Eq first second) (a : α) :
    first = .value a ↔ second = .value a := by
  rcases halike.elim with ⟨b, _, rfl, rfl, rfl⟩ | ⟨hfirst, hsecond⟩
  · rfl
  · constructor <;>
    · rintro rfl
      first | cases hfirst | cases hsecond

/-- The values that go together are those that are read. -/
theorem values (halike : Alike R first second) :
    Alike (fun a b => R a b ∧ first = .value a ∧ second = .value b) first second := by
  cases halike with
  | value hresult => exact .value ⟨hresult, rfl, rfl⟩
  | refused hfirst hsecond => exact .refused hfirst hsecond

theorem mono {T : α → β → Prop} (halike : Alike R first second) (hRT : ∀ a b, R a b → T a b) :
    Alike T first second := by
  cases halike with
  | value hresult => exact .value (hRT _ _ hresult)
  | refused hfirst hsecond => exact .refused hfirst hsecond

theorem inside (halike : Alike R first second) (place other : Place) :
    Alike R (first.inside place) (second.inside other) := by
  cases halike with
  | value hresult => exact .value hresult
  | refused hfirst hsecond =>
      exact .refused ((accepted_inside _ _).trans hfirst) ((accepted_inside _ _).trans hsecond)

theorem map {f : α → γ} {g : β → δ} (halike : Alike R first second)
    (hfg : ∀ a b, R a b → S (f a) (g b)) : Alike S (f <$> first) (g <$> second) := by
  cases halike with
  | value hresult => exact .value (hfg _ _ hresult)
  | refused hfirst hsecond =>
      exact .refused ((accepted_map _ _).trans hfirst) ((accepted_map _ _).trans hsecond)

theorem both {third : Reading γ} {fourth : Reading δ} (halike : Alike R first second)
    (hother : Alike S third fourth) :
    Alike (fun a b => R a.1 b.1 ∧ S a.2 b.2) (Reading.both first third)
      (Reading.both second fourth) := by
  cases halike with
  | value hresult =>
      cases hother with
      | value hboth => exact .value ⟨hresult, hboth⟩
      | refused hthird hfourth => exact .refused (by simp [hthird]) (by simp [hfourth])
  | refused hfirst hsecond => exact .refused (by simp [hfirst]) (by simp [hsecond])

theorem seq {f : Reading (α → γ)} {g : Reading (β → δ)} (hfg : Alike (Relator.LiftFun R S) f g)
    (halike : Alike R first second) : Alike S (f <*> first) (g <*> second) :=
  (hfg.both halike).map fun _ _ hpair => hpair.1 hpair.2

theorem seqLeft {third : Reading γ} {fourth : Reading δ} (halike : Alike R first second)
    (hother : Alike S third fourth) : Alike R (first <* third) (second <* fourth) :=
  (halike.map fun _ _ hresult _ _ _ => hresult).seq hother

theorem map_eq {first second : Reading α} (hsame : Alike Eq first second) (f : α → γ) :
    Alike Eq (f <$> first) (f <$> second) :=
  hsame.map fun _ _ => congrArg f

theorem seq_eq {f g : Reading (α → γ)} (hfg : Alike Eq f g) {first second : Reading α}
    (hsame : Alike Eq first second) : Alike Eq (f <*> first) (g <*> second) :=
  (hfg.mono fun _ _ hfunction _ _ => congr hfunction).seq hsame

theorem each {read : Value → Reading α} {readOther : Value → Reading β} {items others : List Value}
    (hitems : List.Forall₂ (fun item other => Alike R (read item) (readOther other)) items others) :
    Alike (List.Forall₂ R) (Reading.each read items) (Reading.each readOther others) := by
  unfold Reading.each
  generalize 0 = position
  induction hitems generalizing position with
  | nil => exact .value .nil
  | cons hfirst _ ih =>
      exact ((hfirst.inside _ _).both (ih (position + 1))).map fun _ _ hpair =>
        .cons hpair.1 hpair.2

end Alike

end Reading

namespace Schema

open Reading

variable {α β : Type} {R : α → β → Prop}

/-- A field is read alike where it is given alike. -/
theorem optional_alike {first second : Entries} {name : Name} {default : α} {defaultOther : β}
    {read : Value → Reading α} {readOther : Value → Reading β}
    (hgiven : Option.Rel (fun given other => Alike R (read given.2) (readOther other.2))
      (given? first name) (given? second name))
    (hdefault : given? first name = none → given? second name = none → R default defaultOther) :
    Alike R (optional first name default read) (optional second name defaultOther readOther) := by
  unfold optional
  generalize given? first name = given at hgiven hdefault ⊢
  generalize given? second name = other at hgiven hdefault ⊢
  cases hgiven with
  | none => exact .value (hdefault rfl rfl)
  | some hread => exact hread.inside _ _

theorem given?_same (entries : Entries) (text : String) :
    given? entries (.same text) = (entries.get? text).map (text, ·) := by
  unfold given? Name.same
  dsimp only
  cases entries.get? text <;> rfl

theorem optional_same_alike {first second : Entries} {text : String} {default : α}
    {defaultOther : β} {read : Value → Reading α} {readOther : Value → Reading β}
    (hgiven : Option.Rel (fun value other => Alike R (read value) (readOther other))
      (first.get? text) (second.get? text))
    (hdefault : first.get? text = none → second.get? text = none → R default defaultOther) :
    Alike R (optional first (.same text) default read)
      (optional second (.same text) defaultOther readOther) := by
  refine optional_alike ?_ fun hfirst hsecond => hdefault ?_ ?_
  · rw [given?_same, given?_same]
    generalize first.get? text = value at hgiven ⊢
    generalize second.get? text = other at hgiven ⊢
    cases hgiven with
    | none => exact .none
    | some hread => exact .some hread
  · rwa [given?_same, Option.map_eq_none_iff] at hfirst
  · rwa [given?_same, Option.map_eq_none_iff] at hsecond

end Schema

end ScreenFlow
