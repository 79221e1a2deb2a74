import ScreenFlow.Proofs.Lowering.Mode
import ScreenFlow.Proofs.ReadsOnly

/-!
What the summary of a state does not depend on: the mode that is forced and the place of the test.
The place decides how a test refers to what it needs, and whether a reference has to be guessed,
which is noted; neither stops a compilation.
-/

namespace ScreenFlow

open Effect

/-! What a place is taken for. -/

namespace Surroundings

/-- The configured patterns are those of the project, wherever the test is. -/
theorem configured_directory (around : Surroundings) (directory : Path) (variants : List String)
    (patterns : List String) :
    { around with directory }.configured variants patterns =
      around.configured variants patterns := by
  induction patterns with
  | nil => rfl
  | cons pattern rest ih =>
      unfold configured
      rw [ih]
      rfl

/-- A target that can be looked for from one directory can be looked for from any. -/
theorem target?_ok {around : Surroundings} {platform target : String} {found : Option Path}
    (hfound : around.target? platform target = .ok found) (directory : Path) :
    ∃ other, { around with directory }.target? platform target = .ok other := by
  unfold target? at hfound ⊢
  split at hfound
  · next hrooted =>
      exact ⟨_, if_pos hrooted⟩
  · next hrooted =>
      obtain ⟨configured, hconfigured, -⟩ := exists_of_bind_eq_ok hfound
      refine ⟨configured.or
        ({ around with directory }.nearby? (Dependency.nameVariants target)),
        (if_neg hrooted).trans ?_⟩
      dsimp only
      rw [configured_directory, hconfigured]
      cases configured <;> rfl

end Surroundings

namespace Desk

/-- Nothing but notes may have been added. -/
structure OnlyNotes (before after : Desk) : Prop where
  session : after.session = before.session
  references : before.ledger.SameReferences after.ledger

instance : Std.Refl OnlyNotes where
  refl _ := ⟨rfl, rfl⟩

instance : IsTrans Desk OnlyNotes where
  trans _ _ _ hfirst hsecond :=
    ⟨hsecond.session.trans hfirst.session,
      trans_of Ledger.SameReferences hfirst.references hsecond.references⟩

/-- Alike up to the notes in the ledgers. -/
abbrev Alike : Desk → Desk → Prop := Twins Ledger.SameReferences

theorem Alike.of_onlyNotes (first second after last : Desk) (hfirst : first.OnlyNotes after)
    (hsecond : second.OnlyNotes last) (halike : first.Alike second) : after.Alike last where
  session := by
    rw [hfirst.session, hsecond.session]
    exact halike.session
  ledger := .of_kept _ _ _ _ hfirst.references hsecond.references halike.ledger

theorem Twins.alike (first second : Desk) (htwins : Twins Eq first second) :
    first.Alike second :=
  ⟨htwins.session, by rw [htwins.ledger]; exact refl_of Ledger.SameReferences _⟩

end Desk

namespace Compilation

theorem ofCompile_follows {α β : Type} {L L' : Ledger → Ledger → Prop} {R : α → β → Prop}
    {task : Compile α} {other : Compile β} (hfollows : Follows L L' R task other) :
    Follows (Desk.Twins L) (Desk.Twins L') R (ofCompile task) (ofCompile other) := by
  intro first second htwins a after hrun
  have hsession : first.session = after.session := congrArg (fun ran : Except Failure α × Desk => ran.2.session) hrun
  have htask : (ExceptT.run task).run first.ledger = (.ok a, after.ledger) :=
    congrArg (fun ran : Except Failure α × Desk => (ran.1, ran.2.ledger)) hrun
  obtain ⟨b, ledger, hother, hab, hledger⟩ :=
    hfollows first.ledger second.ledger htwins.ledger a after.ledger htask
  refine ⟨b, { second with ledger }, ?_, hab, hsession ▸ htwins.session, hledger⟩
  exact congrArg (fun ran : Except Failure β × Ledger => (ran.1, { second with ledger := ran.2 }))
    hother

theorem ofExcept_eq_lift {α : Type} (result : Except Failure α) :
    ofExcept result = liftM result := by
  cases result <;> rfl

theorem ofExcept_follows {α β : Type} {P : Desk → Desk → Prop} {R : α → β → Prop}
    {result : Except Failure α} {other : Except Failure β}
    (hresult : ∀ a, result = .ok a → ∃ b, other = .ok b ∧ R a b) :
    Follows P P R (ofExcept result) (ofExcept other) := by
  rw [ofExcept_eq_lift, ofExcept_eq_lift]
  exact .lift hresult

theorem ofExcept_same {α : Type} {P : Desk → Desk → Prop} (result : Except Failure α) :
    Follows P P Eq (ofExcept result) (ofExcept result) :=
  ofExcept_follows fun a hresult => ⟨a, hresult, rfl⟩

theorem degrade_total (component subject fallback : String) (alternatives : List String) :
    Total Desk.OnlyNotes (degrade component subject fallback alternatives) :=
  fun _ => ⟨(), _, rfl, rfl, rfl⟩

theorem files_follows {L : Ledger → Ledger → Prop} :
    Follows (Desk.Twins L) (Desk.Twins L) Eq files files :=
  .get_bind fun _ _ htwins => .pure htwins.session.project.files.symm

/-- A reference that can be worked out for one place can be worked out for any. -/
theorem reference_follows (task : Assignment) (artifact other : Path) (target platform : String) :
    Follows Desk.Alike Desk.Alike (fun _ _ => True) (reference task artifact target platform)
      (reference task other target platform) := by
  refine files_follows.bind ?_
  rintro tree _ rfl
  have htarget : Follows Desk.Alike Desk.Alike (fun _ _ => True)
      (ofExcept ((task.surroundings tree artifact).target? platform (forwardSlashes target)))
      (ofExcept ((task.surroundings tree other).target? platform (forwardSlashes target))) :=
    ofExcept_follows fun found hfound => by
      obtain ⟨another, hanother⟩ := Surroundings.target?_ok hfound other.parent
      exact ⟨another, hanother, trivial⟩
  refine htarget.bind fun found another _ =>
    Total.follows ?_ (Total.moves ?_) Desk.Alike.of_onlyNotes
  -- found or not, there is a reference; only a guess is noted
  all_goals
    split
    · exact .pure _
    · exact (degrade_total _ _ _ _).bind fun _ => .pure _

theorem helperReference_total (task : Assignment) (artifact : Path) :
    Total Desk.OnlyNotes (helperReference task artifact) := by
  have hfiles : Total Desk.OnlyNotes files := fun desk => ⟨_, desk, rfl, refl_of _ desk⟩
  refine hfiles.bind fun tree => ?_
  dsimp only
  split
  · exact .pure _
  · exact (degrade_total _ _ _ _).bind fun _ => .pure _

theorem importOf_follows (task : Assignment) (artifact other : Path) (reference : Reference) :
    Follows Desk.Alike Desk.Alike (fun _ _ => True) (importOf task artifact reference)
      (importOf task other reference) :=
  (reference_follows task artifact other _ _).bind fun _ _ _ => .pure trivial

theorem assemble_follows (task : Assignment) (record : StateRecord) (summary : StateSummary)
    (artifact other : Path) (forceRaw forceOther : Bool) :
    Follows (Desk.Twins Eq) Desk.Alike (fun first second => first.summary = second.summary)
      (assemble task record summary artifact forceRaw)
      (assemble task record summary other forceOther) := by
  refine (ofCompile_readsOnly _).steady.follows.bind fun _ _ _ => ?_
  -- from the screens on the ledgers may differ in their notes
  refine ((ofCompile_readsOnly _).steady.follows.mono (fun _ _ => id) Desk.Twins.alike).bind
    fun _ _ _ => ?_
  refine (ofExcept_same _).bind ?_
  rintro screens _ rfl
  refine (ofCompile_follows (.mapM
    (fun screen => Lowering.screen_follows screen _ forceOther) screens)).bind fun _ _ _ => ?_
  refine .get_bind fun desk another halike => ?_
  have hreferences : another.ledger.references = desk.ledger.references := halike.ledger
  dsimp only
  rw [hreferences]
  refine (Follows.mapM (importOf_follows task artifact other) _).bind fun _ _ _ => ?_
  exact ((helperReference_total task other).follows (helperReference_total task artifact).moves
    Desk.Alike.of_onlyNotes).bind fun _ _ _ => .pure rfl

/-- What can be compiled in one mode and for one place can be compiled in any mode for any place, to
the same summary. -/
theorem document_follows (task : Assignment) (sources : TransitionSources)
    (directory other : Path) (request : StateRequest) (forceOther : Bool) :
    Follows (Desk.Twins Eq) Desk.Alike (fun first second => first.1.summary = second.1.summary)
      (document task sources directory request)
      (document task sources other { request with forceRaw := forceOther }) := by
  refine (ofExcept_same _).bind ?_
  rintro record _ rfl
  refine (StateSummary.extract_readsOnly task sources _ record _).steady.follows.bind ?_
  rintro summary _ rfl
  refine (ofExcept_same _).bind fun _ _ _ => ?_
  exact (assemble_follows task record summary _ _ _ _).bind fun _ _ hsummary => .pure hsummary

end Compilation

end ScreenFlow
