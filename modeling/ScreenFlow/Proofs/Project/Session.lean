import ScreenFlow.Project.Templates
import ScreenFlow.Proofs.Effect.Paired
import ScreenFlow.Proofs.Entries

/-!
What a session remembers.  In a truthful session every unit, every configuration and every template
that is remembered is what its file holds now; then nothing that is asked for depends on what is
remembered, only on the files.  Asking keeps a session truthful and the files as they are.
-/

namespace ScreenFlow

open Effect

namespace Session

/-- Two sessions about the same files, which are looked at in the same way. -/
structure SameProject (before after : Session) : Prop where
  files : after.files = before.files
  marker : after.marker = before.marker

/-- What is remembered is what is there. -/
structure Truthful (session : Session) : Prop where
  units : ∀ entry ∈ session.units,
    freshUnit session.files session.marker entry.1 = .ok entry.2
  configs : ∀ entry ∈ session.configs,
    Config.ofFile (session.files.text? (entry.1.child Config.fileName)) = entry.2
  templates : ∀ entry ∈ session.templates,
    entry.1.1.read session.files entry.1.2 = .ok entry.2

/-- The project stays as it is, and what is remembered stays true. -/
structure Keeps (before after : Session) : Prop where
  project : before.SameProject after
  truthful : before.Truthful → after.Truthful

instance : Std.Refl Keeps where
  refl _ := ⟨⟨rfl, rfl⟩, id⟩

instance : IsTrans Session Keeps where
  trans _ _ _ hfirst hsecond :=
    ⟨⟨hsecond.project.files.trans hfirst.project.files,
        hsecond.project.marker.trans hfirst.project.marker⟩,
      fun htrue => hsecond.truthful (hfirst.truthful htrue)⟩

/-- Two truthful sessions about the same project; what they remember may differ. -/
structure Twins (first second : Session) : Prop where
  project : first.SameProject second
  left : first.Truthful
  right : second.Truthful

theorem Truthful.twins {session : Session} (htrue : session.Truthful) : Twins session session :=
  ⟨⟨rfl, rfl⟩, htrue, htrue⟩

theorem Twins.symm {first second : Session} (htwins : Twins first second) : Twins second first :=
  ⟨⟨htwins.project.files.symm, htwins.project.marker.symm⟩, htwins.right, htwins.left⟩

theorem Twins.of_keeps {before after other : Session} (hkeeps : before.Keeps after)
    (htwins : Twins before other) : Twins after other where
  project := ⟨htwins.project.files.trans hkeeps.project.files.symm,
    htwins.project.marker.trans hkeeps.project.marker.symm⟩
  left := hkeeps.truthful htwins.left
  right := htwins.right

end Session

variable {α : Type}

/-- Work that reads the project and remembers what it has read. -/
abbrev Work.ReadsOnly (work : Work α) : Prop := Reads Session.Keeps Session.Twins work

/-- For work that keeps the project it is enough to look at the results. -/
theorem Work.ReadsOnly.of_result {work : Work α} (hkeeps : Moves Session.Keeps work)
    (hresult : ∀ first second, Session.Twins first second →
      (work.run.run first).1 = (work.run.run second).1) : work.ReadsOnly where
  keeps := hkeeps
  steady first second htwins :=
    ⟨hresult first second htwins,
      ((htwins.of_keeps (hkeeps first)).symm.of_keeps (hkeeps second)).symm⟩

namespace Session

/-! Units. -/

/-- The unit of a path as it is now. -/
def unitNow (session : Session) (path : Path) : Except Failure StateUnit :=
  (freshUnit session.files session.marker (session.files.resolve path)).mapError Failure.load

theorem SameProject.unitNow {first second : Session} (hsame : first.SameProject second)
    (path : Path) : second.unitNow path = first.unitNow path := by
  simp only [Session.unitNow, hsame.files, hsame.marker]

/-- The unit that a session gives for a path: the one it remembers, else the one that is there
now. -/
def known (session : Session) (path : Path) : Except Failure StateUnit :=
  match session.units.lookup (session.files.resolve path) with
  | some unit => .ok unit
  | none => session.unitNow path

theorem run_unit_eq_known (session : Session) (path : Path) :
    ((unit path).run.run session).1 = session.known path := by
  unfold unit known unitNow
  rw [run_bind, run_get]
  dsimp only
  cases session.units.lookup (session.files.resolve path) with
  | some unit => rfl
  | none =>
      cases freshUnit session.files session.marker (session.files.resolve path) with
      | error failure => rfl
      | ok found => rfl

theorem run_unit {session : Session} (htrue : session.Truthful) (path : Path) :
    ((unit path).run.run session).1 = session.unitNow path := by
  rw [run_unit_eq_known, known]
  cases hlookup : session.units.lookup (session.files.resolve path) with
  | some known =>
      rw [unitNow, htrue.units _ (mem_of_lookup_eq_some hlookup)]
      rfl
  | none => rfl

theorem unit_keeps (path : Path) : Moves Keeps (unit path) := by
  intro session
  unfold unit
  rw [run_bind, run_get]
  dsimp only
  cases session.units.lookup (session.files.resolve path) with
  | some known => exact refl_of Keeps session
  | none =>
      cases hfresh : freshUnit session.files session.marker (session.files.resolve path) with
      | error failure => exact refl_of Keeps session
      | ok found =>
          exact ⟨⟨rfl, rfl⟩, fun htrue =>
            { htrue with units := List.forall_mem_cons.mpr ⟨hfresh, htrue.units⟩ }⟩

theorem unit_readsOnly (path : Path) : (unit path).ReadsOnly :=
  .of_result (unit_keeps path) fun first second htwins => by
    rw [run_unit htwins.left, run_unit htwins.right, htwins.project.unitNow]

theorem forget_keeps (session : Session) (path : Path) : session.Keeps (session.forget path) where
  project := ⟨rfl, rfl⟩
  truthful htrue :=
    { htrue with units := fun entry hmem => htrue.units entry (List.mem_filter.mp hmem).1 }

theorem run_reload {session : Session} (htrue : session.Truthful) (path : Path) :
    ((reload path).run.run session).1 = session.unitNow path :=
  run_unit ((forget_keeps session path).truthful htrue) path

theorem reload_readsOnly (path : Path) : (reload path).ReadsOnly :=
  .of_result (.bind (.modify fun session => forget_keeps session path) fun _ => unit_keeps path)
    fun first second htwins => by
      rw [run_reload htwins.left, run_reload htwins.right, htwins.project.unitNow]

/-! Settings. -/

theorem run_config {session : Session} (htrue : session.Truthful) (root : Path) :
    ((config root).run.run session).1 =
      .ok (Config.ofFile (session.files.text?
        ((session.files.resolve root).child Config.fileName))) := by
  unfold config
  rw [run_bind, run_get]
  dsimp only
  cases hlookup : session.configs.lookup (session.files.resolve root) with
  | some known =>
      rw [htrue.configs _ (mem_of_lookup_eq_some hlookup)]
      rfl
  | none => rfl

theorem config_keeps (root : Path) : Moves Keeps (config root) := by
  intro session
  unfold config
  rw [run_bind, run_get]
  dsimp only
  cases session.configs.lookup (session.files.resolve root) with
  | some known => exact refl_of Keeps session
  | none =>
      exact ⟨⟨rfl, rfl⟩, fun htrue =>
        { htrue with configs := List.forall_mem_cons.mpr ⟨rfl, htrue.configs⟩ }⟩

theorem config_readsOnly (root : Path) : (config root).ReadsOnly :=
  .of_result (config_keeps root) fun first second htwins => by
    rw [run_config htwins.left, run_config htwins.right, htwins.project.files]

end Session

/-! Templates. -/

namespace TemplateSource

theorem run_template (source : TemplateSource) {session : Session} (htrue : session.Truthful)
    (name : String) :
    ((source.template name).run.run session).1 = source.read session.files name := by
  unfold template
  rw [run_bind, run_get]
  dsimp only
  cases hlookup : session.templates.lookup (source, name) with
  | some known =>
      exact (htrue.templates _ (mem_of_lookup_eq_some hlookup)).symm
  | none => cases source.read session.files name <;> rfl

theorem template_keeps (source : TemplateSource) (name : String) :
    Moves Session.Keeps (source.template name) := by
  intro session
  unfold template
  rw [run_bind, run_get]
  dsimp only
  cases session.templates.lookup (source, name) with
  | some known => exact refl_of Session.Keeps session
  | none =>
      cases hread : source.read session.files name with
      | error failure => exact refl_of Session.Keeps session
      | ok nodes =>
          exact ⟨⟨rfl, rfl⟩, fun htrue =>
            { htrue with templates := List.forall_mem_cons.mpr ⟨hread, htrue.templates⟩ }⟩

theorem template_readsOnly (source : TemplateSource) (name : String) :
    (source.template name).ReadsOnly :=
  .of_result (template_keeps source name) fun first second htwins => by
    rw [run_template source htwins.left, run_template source htwins.right,
      htwins.project.files]

end TemplateSource

end ScreenFlow
