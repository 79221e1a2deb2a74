import ScreenFlow.Proofs.Project.IndexEntry

/-!
On which platforms the transitions into a state can be used.  An index entry is chosen by its own
platforms, and those that its unit names take their place without being looked at again; the edges of
the compiled unit are chosen by the platforms that are used.
-/

namespace ScreenFlow

open Effect

variable {α β : Type}

namespace Desk

/-- The sessions give the same units, whatever has been noted. -/
def SameUnits (before after : Desk) : Prop :=
  before.session.SameUnits after.session

instance : Std.Refl SameUnits where
  refl desk := refl_of Session.SameUnits desk.session

instance : IsTrans Desk SameUnits where
  trans _ _ _ hfirst hsecond := trans_of Session.SameUnits hfirst hsecond

end Desk

namespace Compilation

theorem ofWork_reads {work : Work α} (hwork : Reads Session.SameUnits Session.SameUnits work) :
    Reads Desk.SameUnits Desk.SameUnits (ofWork work) where
  keeps desk := hwork.keeps desk.session
  steady first second hsame := hwork.steady first.session second.session hsame

theorem degrade_reads (note : Degradation) :
    Reads Desk.SameUnits Desk.SameUnits (ofCompile (Compile.degrade note)) where
  keeps desk := refl_of Session.SameUnits desk.session
  steady _ _ hsame := ⟨rfl, hsame⟩

end Compilation

namespace Incoming

theorem ofEntry_reads (task : Assignment) (sources : TransitionSources) (entry : IndexEntry) :
    Reads Desk.SameUnits Desk.SameUnits (ofEntry task sources entry) := by
  rw [ofEntry_eq]
  refine (Compilation.ofWork_reads (lookUp_reads task sources entry)).bind fun found => ?_
  split
  · exact .pure _
  · exact (Compilation.degrade_reads _).bind fun _ => Compilation.ofExcept_reads _

/-- The platforms on which an entry is used, as the session gives the unit that declares its edge. -/
def usedOn (task : Assignment) (sources : TransitionSources) (session : Session)
    (entry : IndexEntry) : List String :=
  match (lookUp task sources entry).run.run session with
  | (.ok (_, some (_, edge)), _) => platformsInForce entry edge
  | _ => entry.platforms

/-- The transition is what an entry becomes: the same edge, on the platforms on which it is used. -/
structure Becomes (task : Assignment) (sources : TransitionSources) (session : Session)
    (entry : IndexEntry) (transition : Transition) : Prop where
  key : transition.key = entry.key
  platforms : transition.platforms = usedOn task sources session entry

theorem toTransition_key_platforms {entry : IndexEntry} {transition : Transition}
    (hbare : entry.toTransition = .ok transition) :
    transition.key = entry.key ∧ transition.platforms = entry.platforms := by
  unfold IndexEntry.toTransition at hbare
  split at hbare
  · cases hbare
    exact ⟨rfl, rfl⟩
  · cases hbare

theorem becomes_of_run_ofEntry {task : Assignment} {sources : TransitionSources}
    {entry : IndexEntry} {desk : Desk} {transition : Transition}
    (hrun : ((ExceptT.run (ofEntry task sources entry)).run desk).1 = .ok transition) :
    Becomes task sources desk.session entry transition := by
  suffices hresult : transition.key = entry.key ∧
      transition.platforms = usedOn task sources desk.session entry from ⟨hresult.1, hresult.2⟩
  rw [run_ofEntry] at hrun
  unfold usedOn
  cases hlook : (lookUp task sources entry).run.run desk.session with
  | mk result session =>
      rw [hlook] at hrun
      match result with
      | .error failure => cases hrun
      | .ok (paths, some (path, edge)) =>
          cases hrun
          exact ⟨rfl, rfl⟩
      | .ok (paths, none) => exact toTransition_key_platforms hrun

theorem keys_eq_of_becomes {task : Assignment} {sources : TransitionSources} {session : Session}
    {entries : DiscoveryIndex} {transitions : List Transition}
    (hall : List.Forall₂ (Becomes task sources session) entries transitions) :
    transitions.map Transition.key = entries.map IndexEntry.key := by
  induction hall with
  | nil => rfl
  | cons hfirst _ ih => rw [List.map_cons, List.map_cons, hfirst.key, ih]

/-- The entries that lead into the target are looked up one by one, none in the light of another. -/
theorem becomes_of_run_mapM {task : Assignment} {sources : TransitionSources}
    {entries : DiscoveryIndex} {desk after : Desk} {transitions : List Transition}
    (hrun : (ExceptT.run (entries.mapM (ofEntry task sources))).run desk =
      (.ok transitions, after)) :
    List.Forall₂ (Becomes task sources desk.session) entries transitions := by
  -- looking up one entry changes no unit, so that each may be looked up at the first desk
  have happart := Reads.run_mapM (ofEntry_reads task sources)
    (fun hkept halike => trans_of Desk.SameUnits hkept.symm halike)
    entries fun (_ : IndexEntry) => refl_of Desk.SameUnits desk
  refine (forall₂_of_mapM_eq_ok (happart.symm.trans ?_)).imp fun _ _ => becomes_of_run_ofEntry
  exact congrArg Prod.fst hrun

/-- Where the index tells of transitions, they are what its entries become, every one of them, and
the primary one is chosen among them. -/
theorem run_resolve_of_entries {task : Assignment} {sources : TransitionSources}
    {target : String} {previous : Option String} {desk after : Desk}
    {incoming : IncomingTransitions} (hentries : entriesInto task sources target ≠ [])
    (hrun : (ExceptT.run (resolve task sources target none previous)).run desk =
      (.ok incoming, after)) :
    ∃ between,
      (ExceptT.run ((entriesInto task sources target).mapM (ofEntry task sources))).run desk =
          (.ok incoming.transitions, between) ∧
        (ExceptT.run (found task sources target)).run desk =
          (.ok (incoming.transitions, .discovery), between) ∧
        (ExceptT.run (choosePrimary target incoming.transitions previous)).run between =
          (.ok incoming.primary, after) := by
  obtain ⟨⟨kept, mode⟩, between, hfound, hrest⟩ := exists_of_run_bind_eq_ok hrun
  obtain ⟨primary, last, hchoose, hrest⟩ := exists_of_run_bind_eq_ok hrest
  cases hrest
  obtain ⟨transitions, middle, hmap, hrest⟩ := exists_of_run_bind_eq_ok hfound
  have hall := becomes_of_run_mapM hmap
  have hnodup : (transitions.map Transition.key).Nodup := by
    rw [keys_eq_of_becomes hall]
    exact DiscoveryIndex.incoming_keys_nodup _ _ _
  cases transitions with
  | nil => exact absurd (List.forall₂_nil_right_iff.mp hall) hentries
  | cons first rest =>
      cases hrest
      rw [Transition.dedupe_eq_self hnodup] at hchoose ⊢
      exact ⟨between, hmap, hfound, hchoose⟩

theorem Becomes.appliesTo_iff {task : Assignment} {sources : TransitionSources}
    {session : Session} {entry : IndexEntry} {transition : Transition}
    (hbecomes : Becomes task sources session entry transition) (platform : String) :
    transition.appliesTo platform = true ↔
      usedOn task sources session entry = [] ∨
        platform ∈ usedOn task sources session entry := by
  rw [Transition.appliesTo_iff, hbecomes.platforms]

theorem appliesTo_of_mem_ownEdges {task : Assignment} {target : String} {transition : Transition}
    (hmem : transition ∈ ownEdges task target) : transition.appliesTo task.platform = true :=
  (Bool.and_eq_true_iff.mp (List.mem_filter.mp hmem).2).2

/-- Every transition applies to the platform of the task exactly when every entry for the target is
used on it. -/
theorem resolve_appliesTo_iff {task : Assignment} {sources : TransitionSources}
    {target : String} {previous : Option String} {desk after : Desk}
    {incoming : IncomingTransitions}
    (hrun : (ExceptT.run (resolve task sources target none previous)).run desk =
      (.ok incoming, after)) :
    (∀ transition ∈ incoming.transitions, transition.appliesTo task.platform = true) ↔
      ∀ entry ∈ entriesInto task sources target,
        usedOn task sources desk.session entry = [] ∨
          task.platform ∈ usedOn task sources desk.session entry := by
  by_cases hentries : entriesInto task sources target = []
  · -- only an edge of the unit itself is left, and those are chosen by the platform
    obtain ⟨own, last, hown, hkept, -⟩ := run_resolve_of_no_entries hentries previous desk
    cases hown.symm.trans hrun
    rw [hkept, hentries]
    refine iff_of_true (fun transition hmem => ?_) (by simp)
    exact appliesTo_of_mem_ownEdges
      (Transition.pickPrevious_eq_some_iff.mp (Option.mem_toList.mp hmem)).mem
  · obtain ⟨between, hmap, -, -⟩ := run_resolve_of_entries hentries hrun
    exact forall_mem_iff_of_forall₂ ((becomes_of_run_mapM hmap).imp
      fun _ _ hbecomes => hbecomes.appliesTo_iff task.platform)

/-- What is found on the web for an edge that the index knows for the web, while its unit restricts
it to another platform. -/
def restrictedRun : Except Failure IncomingTransitions × Desk :=
  (ExceptT.run (resolve (cartTask { target := "paid", platforms := ["cms"] })
    { unindexed with index := some [{ paidEntry with platforms := ["web"] }] }
    "paid" none none)).run
    (cartDesk (.map [(.name "target", .text "paid"),
      (.name "platforms", .list [.text "cms"])]))

theorem restrictedRun_ok :
    ∃ incoming after, restrictedRun = (.ok incoming, after) ∧
      incoming.transitions.all (·.appliesTo "web") = false := by
  have hnone : (restrictedRun.1.toOption.map fun incoming =>
      incoming.transitions.all (·.appliesTo "web")) = some false := by
    decide +kernel
  cases hrun : restrictedRun with
  | mk result after =>
      rw [hrun] at hnone
      cases result with
      | error failure => cases hnone
      | ok incoming => exact ⟨incoming, after, rfl, Option.some.inj hnone⟩

theorem restrictedRun_appliesTo_iff :
    ∃ task sources target previous desk incoming after,
      (ExceptT.run (resolve task sources target none previous)).run desk =
          (.ok incoming, after) ∧
        ((∀ transition ∈ incoming.transitions, transition.appliesTo task.platform = true) ↔
          ∀ entry ∈ entriesInto task sources target,
            usedOn task sources desk.session entry = [] ∨
              task.platform ∈ usedOn task sources desk.session entry) := by
  obtain ⟨incoming, after, hrun, -⟩ := restrictedRun_ok
  exact ⟨_, _, _, _, _, incoming, after, hrun, resolve_appliesTo_iff hrun⟩

theorem not_appliesTo_restrictedRun :
    ¬ ∀ task sources target previous desk incoming after,
      (ExceptT.run (resolve task sources target none previous)).run desk =
          (.ok incoming, after) →
        ∀ transition ∈ incoming.transitions, transition.appliesTo task.platform = true := by
  intro hall
  obtain ⟨incoming, after, hrun, hnone⟩ := restrictedRun_ok
  have happlies : incoming.transitions.all (·.appliesTo "web") = true :=
    List.all_eq_true.mpr (hall _ _ _ _ _ incoming after hrun)
  rw [hnone] at happlies
  cases happlies

end Incoming

end ScreenFlow
