import ScreenFlow.Proofs.Effect.Paired

/-!
Results that agree: both are failures, of whatever kind, or both are good and what they give goes
together.
-/

namespace ScreenFlow

variable {α β γ δ : Type}

/-- Both end well, with results that go together by `R`, or both fail. -/
inductive Agree (R : α → β → Prop) : Except Failure α → Except Failure β → Prop
  | failed (failure other : Failure) : Agree R (.error failure) (.error other)
  | done {a : α} {b : β} (hresult : R a b) : Agree R (.ok a) (.ok b)

namespace Agree

variable {R : α → β → Prop} {first : Except Failure α} {second : Except Failure β}

theorem exists_ok (hagree : Agree R first second) {a : α} (hfirst : first = .ok a) :
    ∃ b, second = .ok b ∧ R a b := by
  cases hagree with
  | failed => cases hfirst
  | done hresult =>
      cases hfirst
      exact ⟨_, rfl, hresult⟩

theorem symm (hagree : Agree R first second) : Agree (flip R) second first := by
  cases hagree with
  | failed failure other => exact .failed other failure
  | done hresult => exact .done hresult

theorem of_exists (hforward : ∀ a, first = .ok a → ∃ b, second = .ok b ∧ R a b)
    (hback : ∀ b, second = .ok b → ∃ a, first = .ok a) : Agree R first second := by
  cases first with
  | ok a =>
      obtain ⟨b, rfl, hresult⟩ := hforward a rfl
      exact .done hresult
  | error failure =>
      cases second with
      | error other => exact .failed failure other
      | ok b =>
          obtain ⟨a, ha⟩ := hback b rfl
          cases ha

theorem mono {S : α → β → Prop} (hagree : Agree R first second) (hRS : ∀ a b, R a b → S a b) :
    Agree S first second := by
  cases hagree with
  | failed failure other => exact .failed failure other
  | done hresult => exact .done (hRS _ _ hresult)

theorem bind {S : γ → δ → Prop} {next : α → Except Failure γ} {nextOther : β → Except Failure δ}
    (hagree : Agree R first second) (hnext : ∀ a b, R a b → Agree S (next a) (nextOther b)) :
    Agree S (first >>= next) (second >>= nextOther) := by
  cases hagree with
  | failed failure other => exact .failed failure other
  | done hresult => exact hnext _ _ hresult

theorem mapM {S : γ → δ → Prop} {f : α → Except Failure γ} {g : β → Except Failure δ}
    {items : List α} {others : List β}
    (hitems : List.Forall₂ (fun a b => Agree S (f a) (g b)) items others) :
    Agree (List.Forall₂ S) (items.mapM f) (others.mapM g) := by
  induction hitems with
  | nil => exact .done .nil
  | cons hfirst _ ih =>
      rw [List.mapM_cons, List.mapM_cons]
      exact hfirst.bind fun c d hcd => ih.bind fun cs ds hrest => .done (.cons hcd hrest)

end Agree

/-- Both end well, with the same result, or both fail. -/
abbrev SameResults (first second : Except Failure α) : Prop :=
  Agree Eq first second

namespace SameResults

variable {first second : Except Failure α}

theorem refl (first : Except Failure α) : SameResults first first := by
  cases first with
  | error failure => exact .failed failure failure
  | ok a => exact .done rfl

theorem symm (hsame : SameResults first second) : SameResults second first :=
  (Agree.symm hsame).mono fun _ _ => Eq.symm

theorem ok (hsame : SameResults first second) {a : α} (hfirst : first = .ok a) :
    second = .ok a := by
  obtain ⟨_, hsecond, rfl⟩ := hsame.exists_ok hfirst
  exact hsecond

theorem of_iff (hiff : ∀ a, first = .ok a ↔ second = .ok a) : SameResults first second :=
  .of_exists (fun a hfirst => ⟨a, (hiff a).mp hfirst, rfl⟩) fun a hsecond =>
    ⟨a, (hiff a).mpr hsecond⟩

theorem toOption (hsame : SameResults first second) : first.toOption = second.toOption := by
  cases hsame with
  | failed => rfl
  | done hresult => rw [hresult]

theorem bind (hsame : SameResults first second) {next nextOther : α → Except Failure β}
    (hnext : ∀ a, SameResults (next a) (nextOther a)) :
    SameResults (first >>= next) (second >>= nextOther) :=
  Agree.bind hsame fun a _ heq => heq ▸ hnext a

theorem andThen (hsame : SameResults first second) (next : α → Except Failure β) :
    SameResults (first >>= next) (second >>= next) :=
  hsame.bind fun a => refl (next a)

theorem mapM {f : α → Except Failure γ} {g : β → Except Failure γ} {items : List α}
    {others : List β} (hitems : List.Forall₂ (fun a b => SameResults (f a) (g b)) items others) :
    SameResults (items.mapM f) (others.mapM g) :=
  (Agree.mapM hitems).mono fun _ _ hresults => List.forall₂_eq_eq_eq ▸ hresults

end SameResults

/-- Of two tasks each of which follows the other, the results agree. -/
theorem Effect.Follows.agree {σ : Type} {P Q P' Q' : σ → σ → Prop} {R : α → β → Prop}
    {R' : β → α → Prop} {task : Effect σ α} {other : Effect σ β}
    (hfollows : Follows P Q R task other) (hback : Follows P' Q' R' other task) {first second : σ}
    (halike : P first second) (hother : P' second first) :
    Agree R (task.run.run first).1 (other.run.run second).1 := by
  refine .of_exists (fun a hrun => ?_) fun b hrun => ?_
  · obtain ⟨b, last, hlast, hresult, -⟩ := hfollows first second halike a _ (Prod.ext hrun rfl)
    exact ⟨b, by rw [hlast], hresult⟩
  · obtain ⟨a, after, hafter, -⟩ := hback second first hother b _ (Prod.ext hrun rfl)
    exact ⟨a, by rw [hafter]⟩

end ScreenFlow
