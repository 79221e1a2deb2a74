import ScreenFlow.Proofs.Effect

/-!
Two runs side by side.  A task that is `Steady` gives the same result in any two states that are
alike, whether it fails or not, and leaves them alike.  One task `Follows` the pattern of another when
it ends well wherever the other does, with a result that goes with that of the other.
-/

namespace ScreenFlow

namespace Effect

variable {σ α β γ δ : Type} {E : σ → σ → Prop}

def Steady (E : σ → σ → Prop) (task : Effect σ α) : Prop :=
  ∀ first second, E first second →
    (task.run.run first).1 = (task.run.run second).1 ∧
      E (task.run.run first).2 (task.run.run second).2

theorem Steady.pure (a : α) : Steady E (Pure.pure a : Effect σ α) :=
  fun _ _ halike => ⟨rfl, halike⟩

theorem Steady.throw (failure : Failure) :
    Steady E (MonadExcept.throw failure : Effect σ α) :=
  fun _ _ halike => ⟨rfl, halike⟩

theorem Steady.bind {task : Effect σ α} {next : α → Effect σ β} (htask : Steady E task)
    (hnext : ∀ a, Steady E (next a)) : Steady E (task >>= next) := by
  intro first second halike
  obtain ⟨hresult, hafter⟩ := htask first second halike
  rw [run_bind, run_bind]
  cases hfirst : task.run.run first with
  | mk result after =>
      cases hsecond : task.run.run second with
      | mk other last =>
          rw [hfirst, hsecond] at hresult hafter
          dsimp only at hresult hafter
          subst hresult
          cases result with
          | error failure => exact ⟨rfl, hafter⟩
          | ok a => exact hnext a after last hafter

/-- A task that only reads: it leaves of the state what `K` says, and it is steady. -/
structure Reads (K E : σ → σ → Prop) (task : Effect σ α) : Prop where
  keeps : Moves K task
  steady : Steady E task

section

variable {K : σ → σ → Prop} [Std.Refl K]

theorem Reads.pure (a : α) : Reads K E (Pure.pure a : Effect σ α) :=
  ⟨.pure a, .pure a⟩

theorem Reads.throw (failure : Failure) : Reads K E (MonadExcept.throw failure : Effect σ α) :=
  ⟨.throw failure, .throw failure⟩

variable [IsTrans σ K]

omit [Std.Refl K] in
theorem Reads.bind {task : Effect σ α} {next : α → Effect σ β} (htask : Reads K E task)
    (hnext : ∀ a, Reads K E (next a)) : Reads K E (task >>= next) :=
  ⟨htask.keeps.bind fun a => (hnext a).keeps, htask.steady.bind fun a => (hnext a).steady⟩

/-- What is done with a state is the same for states that are alike. -/
theorem Reads.get_bind {next : σ → Effect σ β} (hnext : ∀ before, Reads K E (next before))
    (halike : ∀ first second, E first second → next first = next second) :
    Reads K E (MonadState.get >>= next) := by
  refine ⟨.bind .get fun before => (hnext before).keeps, fun first second hfirst => ?_⟩
  rw [run_bind, run_bind, run_get, run_get]
  dsimp only
  rw [halike first second hfirst]
  exact (hnext second).steady first second hfirst

theorem Reads.mapM {f : α → Effect σ β} (hf : ∀ a, Reads K E (f a)) (items : List α) :
    Reads K E (items.mapM f) := by
  induction items with
  | nil => exact .pure []
  | cons a rest ih =>
      rw [List.mapM_cons]
      exact (hf a).bind fun b => ih.bind fun bs => .pure (b :: bs)

omit [Std.Refl K] [IsTrans σ K] in
/-- Tasks that only read may be carried out in a row, or each on its own wherever the states are
alike: the results are the same, and so is the first failure. -/
theorem Reads.run_mapM {f : α → Effect σ β} (hf : ∀ a, Reads K E (f a))
    (hkept : ∀ {before after other}, K before after → E before other → E after other)
    (items : List α) {before : σ} {apart : α → σ} (hapart : ∀ a, E before (apart a)) :
    ((items.mapM f).run.run before).1 = items.mapM fun a => ((f a).run.run (apart a)).1 := by
  induction items generalizing before with
  | nil => rfl
  | cons a rest ih =>
      have hresult := ((hf a).steady before (apart a) (hapart a)).1
      have hafter := (hf a).keeps before
      rw [List.mapM_cons, List.mapM_cons, run_bind, ← hresult]
      cases hrun : (f a).run.run before with
      | mk result after =>
          rw [hrun] at hafter
          cases result with
          | error failure => rfl
          | ok b =>
              dsimp only
              rw [run_bind, ← ih fun other => hkept hafter (hapart other)]
              cases (rest.mapM f).run.run after with
              | mk others last => cases others <;> rfl

end

/-- From states that are alike by `P`, the other task ends well wherever the first does; the results go
together by `R`, and the states are then alike by `Q`. -/
def Follows (P Q : σ → σ → Prop) (R : α → β → Prop) (task : Effect σ α) (other : Effect σ β) :
    Prop :=
  ∀ first second, P first second → ∀ a after, task.run.run first = (.ok a, after) →
    ∃ b last, other.run.run second = (.ok b, last) ∧ R a b ∧ Q after last

variable {P Q : σ → σ → Prop} {R : α → β → Prop}

theorem Follows.pure {a : α} {b : β} (hresult : R a b) :
    Follows P P R (Pure.pure a : Effect σ α) (Pure.pure b : Effect σ β) := by
  intro first second halike a after hrun
  cases hrun
  exact ⟨b, second, rfl, hresult, halike⟩

theorem Follows.lift {result : Except Failure α} {other : Except Failure β}
    (hresult : ∀ a, result = .ok a → ∃ b, other = .ok b ∧ R a b) :
    Follows P P R (liftM result : Effect σ α) (liftM other : Effect σ β) := by
  intro first second halike a after hrun
  rw [run_lift, Prod.mk.injEq] at hrun
  obtain ⟨hok, rfl⟩ := hrun
  obtain ⟨b, hother, hab⟩ := hresult a hok
  exact ⟨b, second, by rw [run_lift, hother], hab, halike⟩

theorem Follows.mono {Q' : σ → σ → Prop} {R' : α → β → Prop} {task : Effect σ α}
    {other : Effect σ β} (hfollows : Follows P Q R task other)
    (hresult : ∀ a b, R a b → R' a b) (hstate : ∀ first second, Q first second → Q' first second) :
    Follows P Q' R' task other := by
  intro first second halike a after hrun
  obtain ⟨b, last, hother, hab, hafter⟩ := hfollows first second halike a after hrun
  exact ⟨b, last, hother, hresult a b hab, hstate after last hafter⟩

theorem Follows.bind {S : σ → σ → Prop} {R' : γ → δ → Prop} {task : Effect σ α}
    {other : Effect σ β} {next : α → Effect σ γ} {nextOther : β → Effect σ δ}
    (htask : Follows P Q R task other)
    (hnext : ∀ a b, R a b → Follows Q S R' (next a) (nextOther b)) :
    Follows P S R' (task >>= next) (other >>= nextOther) := by
  intro first second halike c after hrun
  obtain ⟨a, between, hfirst, hrest⟩ := exists_of_run_bind_eq_ok hrun
  obtain ⟨b, middle, hother, hab, hbetween⟩ := htask first second halike a between hfirst
  obtain ⟨d, last, hothers, hcd, hafter⟩ := hnext a b hab between middle hbetween c after hrest
  refine ⟨d, last, ?_, hcd, hafter⟩
  rw [run_bind, hother]
  exact hothers

/-- What a task does besides its result may be left out, as long as the states stay alike. -/
theorem Follows.of_returns {K : σ → σ → Prop} {task : Effect σ α} {b : β} (hmoves : Moves K task)
    (hreturns : Returns task fun a => R a b)
    (hkept : ∀ {before after other}, K before after → P before other → P after other) :
    Follows P P R task (Pure.pure b) := by
  intro first second halike a after hrun
  have hfirst := hmoves first
  rw [hrun] at hfirst
  exact ⟨b, second, rfl, hreturns first a after hrun, hkept hfirst halike⟩

theorem Follows.mapM {f : γ → Effect σ α} {g : γ → Effect σ β}
    (hstep : ∀ c, Follows P P R (f c) (g c)) (items : List γ) :
    Follows P P (List.Forall₂ R) (items.mapM f) (items.mapM g) := by
  induction items with
  | nil => exact .pure .nil
  | cons c rest ih =>
      rw [List.mapM_cons, List.mapM_cons]
      exact (hstep c).bind fun a b hab => ih.bind fun as bs hrest => .pure (.cons hab hrest)

theorem Follows.get_bind {S : σ → σ → Prop} {next : σ → Effect σ α} {nextOther : σ → Effect σ β}
    (hnext : ∀ first second, P first second → Follows P S R (next first) (nextOther second)) :
    Follows P S R (MonadState.get >>= next) (MonadState.get >>= nextOther) := by
  intro first second halike a after hrun
  rw [run_bind, run_get] at hrun
  obtain ⟨b, last, hother, hab, hafter⟩ :=
    hnext first second halike first second halike a after hrun
  exact ⟨b, last, by rw [run_bind, run_get]; exact hother, hab, hafter⟩

theorem Steady.follows {task : Effect σ α} (htask : Steady E task) : Follows E E Eq task task := by
  intro first second halike a after hrun
  obtain ⟨hresult, hafter⟩ := htask first second halike
  rw [hrun] at hresult hafter
  cases hother : task.run.run second with
  | mk result last =>
      rw [hother] at hresult hafter
      dsimp only at hresult hafter
      subst hresult
      exact ⟨a, last, rfl, rfl, hafter⟩

/-! Tasks that never fail. -/

/-- The task ends well from every state, and leaves of it what `K` says. -/
def Total (K : σ → σ → Prop) (task : Effect σ α) : Prop :=
  ∀ before, ∃ a after, task.run.run before = (.ok a, after) ∧ K before after

section

variable {K : σ → σ → Prop}

theorem Total.moves {task : Effect σ α} (htask : Total K task) : Moves K task := by
  intro before
  obtain ⟨a, after, hrun, hkept⟩ := htask before
  rw [hrun]
  exact hkept

theorem Total.modify {change : σ → σ} (hchange : ∀ before, K before (change before)) :
    Total K (modify change : Effect σ PUnit) :=
  fun before => ⟨⟨⟩, change before, rfl, hchange before⟩

theorem Total.pure [Std.Refl K] (a : α) : Total K (Pure.pure a : Effect σ α) :=
  fun before => ⟨a, before, rfl, refl_of K before⟩

theorem Total.bind [IsTrans σ K] {task : Effect σ α} {next : α → Effect σ β}
    (htask : Total K task) (hnext : ∀ a, Total K (next a)) : Total K (task >>= next) := by
  intro before
  obtain ⟨a, between, hfirst, hkept⟩ := htask before
  obtain ⟨b, after, hrest, hlater⟩ := hnext a between
  exact ⟨b, after, by rw [run_bind, hfirst]; exact hrest, trans_of K hkept hlater⟩

theorem Total.forM [Std.Refl K] [IsTrans σ K] {f : α → Effect σ PUnit}
    (hstep : ∀ a, Total K (f a)) (items : List α) : Total K (items.forM f) := by
  induction items with
  | nil => exact .pure PUnit.unit
  | cons a rest ih => exact (hstep a).bind fun _ => ih

/-- Behind a task that never fails stands what its successor gives in any state. -/
theorem Total.run_bind_fst {task : Effect σ PUnit} {next : PUnit → Effect σ β}
    (htask : Total K task) {result : Except Failure β}
    (hnext : ∀ after, ((next ⟨⟩).run.run after).1 = result) (before : σ) :
    ((task >>= next).run.run before).1 = result := by
  obtain ⟨_, after, hrun, -⟩ := htask before
  rw [run_bind, hrun]
  exact hnext after

/-- A task that never fails follows any that keeps the states alike. -/
theorem Total.follows {task : Effect σ α} {other : Effect σ β} (hother : Total K other)
    (htask : Moves K task)
    (hkept : ∀ first second after last, K first after → K second last → P first second →
      P after last) :
    Follows P P (fun _ _ => True) task other := by
  intro first second halike a after hrun
  have hfirst := htask first
  rw [hrun] at hfirst
  obtain ⟨b, last, hlast, hsecond⟩ := hother second
  exact ⟨b, last, hlast, trivial, hkept first second after last hfirst hsecond halike⟩

end

end Effect

end ScreenFlow
