import ScreenFlow.Failure
import Mathlib.Data.List.Forall2
import Mathlib.Order.Defs.Unbundled

/-!
Tasks that may fail and that work on a state; what a task has done to the state by the time it fails
stays done.  `Moves` speaks of the states before and after a task, however it ends; `Returns` speaks
of the results of a task that ends well.  Both pass from the parts of a task to the whole.
-/

namespace ScreenFlow

/-- A task that may fail, on a state that outlives the failure. -/
abbrev Effect (σ : Type) := ExceptT Failure (StateM σ)

namespace Effect

variable {σ α β : Type}

theorem run_bind (task : Effect σ α) (next : α → Effect σ β) (before : σ) :
    (task >>= next).run.run before =
      match task.run.run before with
      | (.ok a, after) => (next a).run.run after
      | (.error failure, after) => (.error failure, after) := by
  rw [ExceptT.run_bind, StateT.run_bind]
  cases hrun : task.run.run before with
  | mk result after => cases result <;> rfl

/-- The result of a task is that of its second part, worked on what the first part leaves. -/
theorem run_bind_fst (task : Effect σ α) (next : α → Effect σ β) (before : σ) :
    ((task >>= next).run.run before).1 =
      (task.run.run before).1 >>= fun a => ((next a).run.run (task.run.run before).2).1 := by
  rw [run_bind]
  cases task.run.run before with
  | mk result after => cases result <;> rfl

/-- A run that ends well passes through a result of its first part. -/
theorem exists_of_run_bind_eq_ok {task : Effect σ α} {next : α → Effect σ β}
    {before after : σ} {b : β} (hrun : (task >>= next).run.run before = (.ok b, after)) :
    ∃ a between, task.run.run before = (.ok a, between) ∧
      (next a).run.run between = (.ok b, after) := by
  rw [run_bind] at hrun
  cases hfirst : task.run.run before with
  | mk result between =>
      rw [hfirst] at hrun
      cases result with
      | error failure => cases hrun
      | ok a => exact ⟨a, between, rfl, hrun⟩

/-- A run that fails does so in its first part or after it. -/
theorem of_run_bind_eq_error {task : Effect σ α} {next : α → Effect σ β} {before after : σ}
    {failure : Failure} (hrun : (task >>= next).run.run before = (.error failure, after)) :
    task.run.run before = (.error failure, after) ∨
      ∃ a between, task.run.run before = (.ok a, between) ∧
        (next a).run.run between = (.error failure, after) := by
  rw [run_bind] at hrun
  cases hfirst : task.run.run before with
  | mk result between =>
      rw [hfirst] at hrun
      cases result with
      | error found =>
          cases hrun
          exact .inl rfl
      | ok a => exact .inr ⟨a, between, rfl, hrun⟩

@[simp] theorem run_pure (a : α) (before : σ) :
    (pure a : Effect σ α).run.run before = (.ok a, before) := rfl

@[simp] theorem run_get (before : σ) :
    (get : Effect σ σ).run.run before = (.ok before, before) := rfl

@[simp] theorem run_modify (change : σ → σ) (before : σ) :
    (modify change : Effect σ PUnit).run.run before = (.ok ⟨⟩, change before) := rfl

@[simp] theorem run_lift (result : Except Failure α) (before : σ) :
    (liftM result : Effect σ α).run.run before = (result, before) := rfl

theorem run_map (f : α → β) (task : Effect σ α) (before : σ) :
    (f <$> task).run.run before =
      ((task.run.run before).1.map f, (task.run.run before).2) := by
  rw [map_eq_pure_bind, run_bind]
  cases task.run.run before with
  | mk result after => cases result <;> rfl

theorem exists_of_run_lift_bind_eq_ok {first : Except Failure α} {next : α → Effect σ β}
    {before after : σ} {b : β}
    (hrun : ((liftM first : Effect σ α) >>= next).run.run before = (.ok b, after)) :
    ∃ a, first = .ok a ∧ (next a).run.run before = (.ok b, after) := by
  obtain ⟨a, between, hfirst, hrest⟩ := exists_of_run_bind_eq_ok hrun
  rw [run_lift, Prod.mk.injEq] at hfirst
  obtain ⟨hfirst, rfl⟩ := hfirst
  exact ⟨a, hfirst, hrest⟩

theorem of_run_lift_bind_eq_error {first : Except Failure α} {next : α → Effect σ β}
    {before after : σ} {failure : Failure}
    (hrun : ((liftM first : Effect σ α) >>= next).run.run before = (.error failure, after)) :
    (first = .error failure ∧ after = before) ∨
      ∃ a, first = .ok a ∧ (next a).run.run before = (.error failure, after) := by
  rcases of_run_bind_eq_error hrun with hfirst | ⟨a, between, hfirst, hrest⟩
  all_goals rw [run_lift, Prod.mk.injEq] at hfirst
  · exact .inl ⟨hfirst.1, hfirst.2.symm⟩
  · obtain ⟨hfirst, rfl⟩ := hfirst
    exact .inr ⟨a, hfirst, hrest⟩

theorem run_mapM_lift (f : α → Except Failure β) (items : List α) (before : σ) :
    (items.mapM fun a => (liftM (f a) : Effect σ β)).run.run before = (items.mapM f, before) := by
  induction items with
  | nil => rfl
  | cons a rest ih =>
      rw [List.mapM_cons, List.mapM_cons, run_bind, run_lift]
      cases f a with
      | error failure => rfl
      | ok b =>
          change ((rest.mapM fun a => (liftM (f a) : Effect σ β)) >>= fun bs =>
            (pure (b :: bs) : Effect σ (List β))).run.run before = _
          rw [run_bind, ih]
          cases rest.mapM f <;> rfl

theorem run_forM_modify (change : α → σ → σ) (items : List α) (before : σ) :
    (items.forM fun a => (modify (change a) : Effect σ PUnit)).run.run before =
      (.ok ⟨⟩, items.foldl (fun state a => change a state) before) := by
  induction items generalizing before with
  | nil => rfl
  | cons a rest ih =>
      change ((modify (change a) : Effect σ PUnit) >>= fun _ =>
        rest.forM fun a => modify (change a)).run.run before = _
      rw [run_bind, run_modify]
      exact ih (change a before)

/-! Where a task leads the state. -/

def Moves (R : σ → σ → Prop) (task : Effect σ α) : Prop :=
  ∀ before, R before (task.run.run before).2

theorem Moves.of_run {R : σ → σ → Prop} {task : Effect σ α} (htask : Moves R task)
    {before after : σ} {result : Except Failure α}
    (hrun : task.run.run before = (result, after)) : R before after := by
  have hafter := htask before
  rwa [hrun] at hafter

section

variable {R : σ → σ → Prop} [Std.Refl R]

theorem Moves.pure (a : α) : Moves R (Pure.pure a : Effect σ α) :=
  fun before => refl_of R before

theorem Moves.throw (failure : Failure) : Moves R (MonadExcept.throw failure : Effect σ α) :=
  fun before => refl_of R before

theorem Moves.get : Moves R (MonadState.get : Effect σ σ) :=
  fun before => refl_of R before

theorem Moves.lift (result : Except Failure α) : Moves R (liftM result : Effect σ α) :=
  fun before => refl_of R before

omit [Std.Refl R] in
theorem Moves.modify {change : σ → σ} (hchange : ∀ before, R before (change before)) :
    Moves R (modify change : Effect σ PUnit) :=
  hchange

variable [IsTrans σ R]

omit [Std.Refl R] in
theorem Moves.bind {task : Effect σ α} {next : α → Effect σ β} (htask : Moves R task)
    (hnext : ∀ a, Moves R (next a)) : Moves R (task >>= next) := by
  intro before
  have hfirst := htask before
  rw [run_bind]
  cases hrun : task.run.run before with
  | mk result after =>
      rw [hrun] at hfirst
      cases result with
      | error failure => exact hfirst
      | ok a => exact trans_of R hfirst (hnext a after)

end

/-! What a task gives back. -/

def Returns (task : Effect σ α) (Result : α → Prop) : Prop :=
  ∀ before a after, task.run.run before = (.ok a, after) → Result a

theorem Returns.pure {Result : α → Prop} {a : α} (ha : Result a) :
    Returns (Pure.pure a : Effect σ α) Result := by
  intro before b after hrun
  cases hrun
  exact ha

theorem Returns.lift {Result : α → Prop} {result : Except Failure α}
    (hresult : ∀ a, result = .ok a → Result a) :
    Returns (liftM result : Effect σ α) Result := by
  intro before a after hrun
  rw [run_lift] at hrun
  exact hresult a (Prod.mk.inj hrun).1

theorem Returns.bind {First : α → Prop} {Result : β → Prop} {task : Effect σ α}
    {next : α → Effect σ β} (htask : Returns task First)
    (hnext : ∀ a, First a → Returns (next a) Result) : Returns (task >>= next) Result := by
  intro before b after hrun
  obtain ⟨a, between, hfirst, hrest⟩ := exists_of_run_bind_eq_ok hrun
  exact hnext a (htask before a between hfirst) between b after hrest

theorem Returns.any (task : Effect σ α) : Returns task fun _ => True :=
  fun _ _ _ _ => trivial

theorem Returns.mapM {Result : β → Prop} {task : α → Effect σ β}
    (htask : ∀ a, Returns (task a) Result) (items : List α) :
    Returns (items.mapM task) fun results => ∀ b ∈ results, Result b := by
  induction items with
  | nil => exact .pure (by simp)
  | cons a rest ih =>
      rw [List.mapM_cons]
      exact .bind (htask a) fun b hb => .bind ih fun bs hbs =>
        .pure (List.forall_mem_cons.mpr ⟨hb, hbs⟩)

end Effect

theorem exists_of_bind_eq_ok {α β : Type} {first : Except Failure α}
    {next : α → Except Failure β} {result : β} (hbind : (first >>= next) = .ok result) :
    ∃ a, first = .ok a ∧ next a = .ok result := by
  cases first with
  | error failure => cases hbind
  | ok a => exact ⟨a, rfl, hbind⟩

theorem forall₂_of_mapM_eq_ok {α β : Type} {f : α → Except Failure β} {items : List α}
    {results : List β} (hmap : items.mapM f = .ok results) :
    List.Forall₂ (fun a b => f a = .ok b) items results := by
  induction items generalizing results with
  | nil =>
      cases hmap
      exact .nil
  | cons a rest ih =>
      rw [List.mapM_cons] at hmap
      obtain ⟨b, hfirst, hmap⟩ := exists_of_bind_eq_ok hmap
      obtain ⟨bs, hrest, hmap⟩ := exists_of_bind_eq_ok hmap
      cases hmap
      exact .cons hfirst (ih hrest)

theorem forall_mem_iff_of_forall₂ {α β : Type} {P : α → Prop} {Q : β → Prop} {as : List α}
    {bs : List β} (hall : List.Forall₂ (fun a b => Q b ↔ P a) as bs) :
    (∀ b ∈ bs, Q b) ↔ ∀ a ∈ as, P a := by
  induction hall with
  | nil => simp
  | cons hfirst _ ih => rw [List.forall_mem_cons, List.forall_mem_cons, hfirst, ih]

theorem exists_of_mapM_eq_ok {α β : Type} {f : α → Except Failure β} {items : List α}
    {results : List β} (hmap : items.mapM f = .ok results) {a : α} (hmem : a ∈ items) :
    ∃ b ∈ results, f a = .ok b := by
  have hall := forall₂_of_mapM_eq_ok hmap
  obtain ⟨index, hlt, rfl⟩ := List.mem_iff_getElem.mp hmem
  have hresult : index < results.length := hall.length_eq ▸ hlt
  exact ⟨results[index], List.getElem_mem hresult, hall.get hlt hresult⟩

theorem mapM_map_result {α β γ : Type} (task : α → Except Failure β) (change : β → γ)
    (items : List α) :
    items.mapM (fun item => change <$> task item) = List.map change <$> items.mapM task := by
  induction items with
  | nil => rfl
  | cons item rest ih =>
      rw [List.mapM_cons, List.mapM_cons, ih]
      cases task item with
      | error failure => rfl
      | ok first => cases rest.mapM task <;> rfl

/-! Whether a result is a good one. -/

theorem isOk_bind {α β : Type} {first : Except Failure α} {next : α → Except Failure β}
    {isOk : Bool} (hnext : ∀ a, (next a).isOk = isOk) :
    (first >>= next).isOk = (first.isOk && isOk) := by
  cases first with
  | error failure => rfl
  | ok a => exact (hnext a).trans (Bool.true_and isOk).symm

theorem isOk_bind_pure {α β : Type} (first : Except Failure α) (f : α → β) :
    (first >>= fun a => pure (f a)).isOk = first.isOk := by
  cases first <;> rfl

theorem isOk_mapM {α β : Type} (f : α → Except Failure β) (items : List α) :
    (items.mapM f).isOk = items.all fun a => (f a).isOk := by
  induction items with
  | nil => rfl
  | cons a rest ih =>
      rw [List.mapM_cons, List.all_cons, ← ih]
      exact isOk_bind fun b => isOk_bind_pure _ _

theorem exists_of_isOk {α : Type} {result : Except Failure α} (hok : result.isOk = true) :
    ∃ a, result = .ok a := by
  cases result with
  | error failure => cases hok
  | ok a => exact ⟨a, rfl⟩

end ScreenFlow
