import ScreenFlow.Proofs.Effect.Paired

/-!
The failures a task can end with.  What holds of the failures of its parts holds of the failures of
the whole task.
-/

namespace ScreenFlow

variable {σ α β : Type} {Expected : Failure → Prop}

def FailsOnly (Expected : Failure → Prop) (result : Except Failure α) : Prop :=
  ∀ failure, result = .error failure → Expected failure

namespace FailsOnly

theorem ok (a : α) : FailsOnly Expected (.ok a : Except Failure α) := by
  rintro failure ⟨⟩

theorem error {failure : Failure} (hfailure : Expected failure) :
    FailsOnly Expected (.error failure : Except Failure α) := by
  rintro _ ⟨⟩
  exact hfailure

theorem of_isOk {result : Except Failure α} (hok : result.isOk = true) :
    FailsOnly Expected result := by
  obtain ⟨a, rfl⟩ := exists_of_isOk hok
  exact ok a

theorem mono {Allowed : Failure → Prop} {result : Except Failure α}
    (hresult : FailsOnly Expected result)
    (hallowed : ∀ failure, Expected failure → Allowed failure) : FailsOnly Allowed result :=
  fun failure hfailure => hallowed failure (hresult failure hfailure)

theorem bind {first : Except Failure α} {next : α → Except Failure β}
    (hfirst : FailsOnly Expected first)
    (hnext : ∀ a, first = .ok a → FailsOnly Expected (next a)) :
    FailsOnly Expected (first >>= next) := by
  cases first with
  | error failure => exact error (hfirst failure rfl)
  | ok a => exact hnext a rfl

theorem mapM {f : α → Except Failure β} {items : List α}
    (hf : ∀ a ∈ items, FailsOnly Expected (f a)) : FailsOnly Expected (items.mapM f) := by
  induction items with
  | nil => exact ok []
  | cons a rest ih =>
      obtain ⟨hfirst, hrest⟩ := List.forall_mem_cons.mp hf
      rw [List.mapM_cons]
      exact bind hfirst fun b _ => bind (ih hrest) fun bs _ => ok (b :: bs)

end FailsOnly

namespace Effect

def FailsOnly (Expected : Failure → Prop) (task : Effect σ α) : Prop :=
  ∀ before, ScreenFlow.FailsOnly Expected (task.run.run before).1

namespace FailsOnly

theorem pure (a : α) : FailsOnly Expected (Pure.pure a : Effect σ α) :=
  fun _ => .ok a

theorem bind {task : Effect σ α} {next : α → Effect σ β} (htask : FailsOnly Expected task)
    (hnext : ∀ a, FailsOnly Expected (next a)) : FailsOnly Expected (task >>= next) := by
  intro before
  have hfirst := htask before
  rw [run_bind]
  cases hrun : task.run.run before with
  | mk result after =>
      rw [hrun] at hfirst
      cases result with
      | error failure => exact .error (hfirst failure rfl)
      | ok a => exact hnext a after

end FailsOnly

end Effect

end ScreenFlow
