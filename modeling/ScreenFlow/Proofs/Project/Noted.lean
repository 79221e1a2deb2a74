import ScreenFlow.Proofs.Graph.Index
import ScreenFlow.Proofs.Project.Named
import ScreenFlow.Proofs.Project.Platforms
import ScreenFlow.Proofs.Project.Primary

/-!
What is noted while the transitions into a state are looked up.  A transition that the caller names
is noted once for each way in which what the units declare departs from what was asked for, and once
when they declare nothing; an entry of the index is noted once when no unit declares its edge.  What
is found as it was asked for is not noted.
-/

namespace ScreenFlow

open Effect

variable {α : Type}

/-! Notes from one desk to a later one. -/

/-- Between the two desks just these notes have been made, in this order. -/
def Desk.Notes (before after : Desk) (notes : List Degradation) : Prop :=
  after.ledger.degradations = before.ledger.degradations ++ notes

theorem Desk.Notes.none {before after : Desk} (hledger : after.ledger = before.ledger) :
    before.Notes after [] := by
  unfold Notes
  rw [hledger, List.append_nil]

theorem Desk.Notes.trans {before between after : Desk} {first second : List Degradation}
    (hfirst : before.Notes between first) (hsecond : between.Notes after second) :
    before.Notes after (first ++ second) := by
  unfold Notes at hfirst hsecond ⊢
  rw [hsecond, hfirst, List.append_assoc]

/-- The fallbacks that are noted in the end, when the run has a result. -/
def fallbacks? (run : Except Failure α × Desk) : Option (List String) :=
  run.1.toOption.map fun _ => run.2.ledger.degradations.map (·.fallback)

theorem exists_of_fallbacks? {run : Except Failure α × Desk} {fallbacks : List String}
    (hrun : fallbacks? run = some fallbacks) :
    ∃ result after, run = (.ok result, after) ∧
      after.ledger.degradations.map (·.fallback) = fallbacks := by
  obtain ⟨result, after⟩ := run
  cases result with
  | error failure => cases hrun
  | ok result => exact ⟨result, after, rfl, Option.some.inj hrun⟩

namespace Compilation

theorem notes_of_run_ofWork {work : Work α} {desk after : Desk} {result : Except Failure α}
    (hrun : (ExceptT.run (ofWork work)).run desk = (result, after)) : desk.Notes after [] := by
  rw [run_ofWork] at hrun
  cases hrun
  exact .none rfl

theorem notes_of_run_degrade {component subject fallback : String} {alternatives : List String}
    {desk after : Desk} {result : Except Failure Unit}
    (hrun : (ExceptT.run (degrade component subject fallback alternatives)).run desk =
      (result, after)) : desk.Notes after [⟨component, subject, fallback, alternatives⟩] := by
  cases hrun
  rfl

end Compilation

namespace Incoming

/-! A transition that the caller names. -/

/-- The files in which a transition from the state is looked for. -/
def namedFiles (task : Assignment) (sources : TransitionSources) (session : Session)
    (state : String) : Except Failure (List Path) :=
  (sources.locator.located session state).map fun found =>
    ownFile task state ++ (otherFile? task session.files found).toList

/-- What is noted about a transition that was found: that it leads elsewhere, and that it is meant
for other platforms. -/
def differences (named : NamedTransition) (target platform : String) (found : Transition) :
    List Degradation :=
  (if StateName.denotes found.toState target then []
   else [⟨"transition", Transition.departure named.fromState named.event,
     "declared target " ++ found.toState ++ " kept", [target]⟩]) ++
  (if found.appliesTo platform then []
   else [⟨"transition", Transition.words named.fromState named.event found.toState,
     "used on " ++ platform ++ " although declared for other platforms", found.platforms⟩])

/-- What is noted about a transition that no unit declares. -/
def bareNote (named : NamedTransition) (target : String) (paths : List Path) : Degradation :=
  ⟨"transition", Transition.words named.fromState named.event target,
    "bare transition without action details", paths.map Path.toText⟩

/-- What a named transition comes to, and what is noted about it. -/
inductive NamedOutcome (task : Assignment) (session : Session) (named : NamedTransition)
    (target : String) (paths : List Path) : Transition → List Degradation → Prop
  | declared {path : Path} {edge : Edge}
      (hfirst : firstNow? session named paths = some (path, edge)) :
      NamedOutcome task session named target paths
        (.ofEdge named.event named.fromState edge (some path.toText))
        (differences named target task.platform
          (.ofEdge named.event named.fromState edge (some path.toText)))
  | bare (hnone : ∀ path ∈ paths, declaredNow? session named path = none) :
      NamedOutcome task session named target paths
        { event := named.event, fromState := named.fromState, toState := target, action := none }
        [bareNote named target paths]

theorem firstNow?_eq_none_iff {session : Session} {named : NamedTransition} {paths : List Path} :
    firstNow? session named paths = none ↔
      ∀ path ∈ paths, declaredNow? session named path = none := by
  unfold firstNow?
  simp only [List.findSome?_eq_none_iff, Option.map_eq_none_iff]

theorem notes_of_run_noteDifferences {named : NamedTransition} {target platform : String}
    {found : Transition} {desk after : Desk} {result : Except Failure Unit}
    (hrun : (ExceptT.run (noteDifferences named target platform found)).run desk =
      (result, after)) : desk.Notes after (differences named target platform found) := by
  unfold noteDifferences at hrun
  unfold differences
  cases htarget : StateName.denotes found.toState target <;>
    cases happlies : found.appliesTo platform <;>
    rw [htarget, happlies] at hrun <;>
    cases hrun <;>
    simp [Desk.Notes, Ledger.degrade]

/-- What a named transition comes to depends on the units in its files as they are now. -/
theorem outcome_of_run_ofNamed {task : Assignment} {sources : TransitionSources}
    {named : NamedTransition} {target : String} {desk after : Desk} {transition : Transition}
    (hrun : (ExceptT.run (ofNamed task sources named target)).run desk =
      (.ok transition, after)) :
    ∃ paths notes, namedFiles task sources desk.session named.fromState = .ok paths ∧
      NamedOutcome task desk.session named target paths transition notes ∧
      desk.Notes after notes := by
  obtain ⟨paths, second, hpaths, hrest⟩ := exists_of_run_bind_eq_ok hrun
  obtain ⟨first, third, hfirst, hrest⟩ := exists_of_run_bind_eq_ok hrest
  have hquiet := (Compilation.notes_of_run_ofWork hpaths).trans
    (Compilation.notes_of_run_ofWork hfirst)
  rw [Compilation.run_ofWork, Prod.mk.injEq] at hpaths hfirst
  obtain ⟨hpaths, rfl⟩ := hpaths
  rw [run_firstDeclaring_reload,
    firstNow?_of_sameProject (candidates_sameProject task sources named.fromState desk.session)]
    at hfirst
  have hfiles : namedFiles task sources desk.session named.fromState = .ok paths :=
    (run_candidates task sources named.fromState desk.session).symm.trans hpaths
  have hnow : firstNow? desk.session named paths = first := Except.ok.inj hfirst.1
  cases first with
  | none =>
      obtain ⟨⟨⟩, last, hnote, hrest⟩ := exists_of_run_bind_eq_ok hrest
      cases hrest
      exact ⟨paths, _, hfiles, .bare (firstNow?_eq_none_iff.mp hnow),
        hquiet.trans (Compilation.notes_of_run_degrade hnote)⟩
  | some first =>
      obtain ⟨path, edge⟩ := first
      obtain ⟨⟨⟩, last, hnotes, hrest⟩ := exists_of_run_bind_eq_ok hrest
      cases hrest
      exact ⟨paths, _, hfiles, .declared hnow,
        hquiet.trans (notes_of_run_noteDifferences hnotes)⟩

section

variable {task : Assignment} {session : Session} {named : NamedTransition} {target : String}
  {paths : List Path} {transition : Transition} {notes : List Degradation}

theorem NamedOutcome.ends
    (houtcome : NamedOutcome task session named target paths transition notes) :
    transition.event = named.event ∧ transition.fromState = named.fromState := by
  cases houtcome <;> exact ⟨rfl, rfl⟩

theorem exists_mem_differences_iff (named : NamedTransition) (target platform : String)
    (found : Transition) :
    (∃ note ∈ differences named target platform found, note.component = "transition") ↔
      StateName.denotes found.toState target = false ∨ found.appliesTo platform = false := by
  unfold differences
  cases StateName.denotes found.toState target <;> cases found.appliesTo platform <;> simp

/-- A named transition is noted just when it is not found, leads elsewhere or is meant for other
platforms. -/
theorem NamedOutcome.noted_iff
    (houtcome : NamedOutcome task session named target paths transition notes) :
    (∃ note ∈ notes, note.component = "transition") ↔
      (∀ path ∈ paths, declaredNow? session named path = none) ∨
        StateName.denotes transition.toState target = false ∨
        transition.appliesTo task.platform = false := by
  cases houtcome with
  | bare hnone => exact iff_of_true ⟨_, List.mem_singleton_self _, rfl⟩ (.inl hnone)
  | @declared path edge hfirst =>
      have hsome : ¬ ∀ path ∈ paths, declaredNow? session named path = none := by
        rw [← firstNow?_eq_none_iff, hfirst]
        exact Option.some_ne_none _
      rw [exists_mem_differences_iff, or_iff_right hsome]

end

/-- A named transition is the only one, and the primary one; what departs from the request is
noted. -/
theorem resolve_named_noted {task : Assignment} {sources : TransitionSources}
    {named : NamedTransition} {target : String} {previous : Option String} {desk after : Desk}
    {incoming : IncomingTransitions}
    (hrun : (ExceptT.run (resolve task sources target (some named) previous)).run desk =
      (.ok incoming, after)) :
    ∃ paths transition notes,
      namedFiles task sources desk.session named.fromState = .ok paths ∧
        incoming = { transitions := [transition], primary := some transition, mode := .explicit } ∧
        transition.event = named.event ∧ transition.fromState = named.fromState ∧
        NamedOutcome task desk.session named target paths transition notes ∧
        desk.Notes after notes ∧
        ((∃ note ∈ notes, note.component = "transition") ↔
          (∀ path ∈ paths, declaredNow? desk.session named path = none) ∨
            StateName.denotes transition.toState target = false ∨
            transition.appliesTo task.platform = false) := by
  obtain ⟨transition, between, hnamed, hrest⟩ := exists_of_run_bind_eq_ok hrun
  cases hrest
  obtain ⟨paths, notes, hfiles, houtcome, hnotes⟩ := outcome_of_run_ofNamed hnamed
  obtain ⟨hevent, hfrom⟩ := houtcome.ends
  exact ⟨paths, transition, notes, hfiles, rfl, hevent, hfrom, houtcome, hnotes,
    houtcome.noted_iff⟩

/-- What is found on the web for the payment of a cart that its unit declares for another platform,
and as leading elsewhere. -/
def refusedRun : Except Failure IncomingTransitions × Desk :=
  (ExceptT.run (resolve (cartTask { target := "refused", platforms := ["cms"] }) unindexed "paid"
    (some ⟨"PAY", "cart"⟩) none)).run
    (cartDesk (.map [(.name "target", .text "refused"), (.name "platforms", .list [.text "cms"])]))

theorem refusedRun_fallbacks :
    fallbacks? refusedRun = some ["declared target refused kept",
      "used on web although declared for other platforms"] := by
  decide +kernel

theorem refusedRun_noted :
    ∃ task sources named target previous desk incoming after,
      (ExceptT.run (resolve task sources target (some named) previous)).run desk =
          (.ok incoming, after) ∧
        (∃ paths transition notes,
          namedFiles task sources desk.session named.fromState = .ok paths ∧
            incoming =
              { transitions := [transition], primary := some transition, mode := .explicit } ∧
            transition.event = named.event ∧ transition.fromState = named.fromState ∧
            NamedOutcome task desk.session named target paths transition notes ∧
            desk.Notes after notes ∧
            ((∃ note ∈ notes, note.component = "transition") ↔
              (∀ path ∈ paths, declaredNow? desk.session named path = none) ∨
                StateName.denotes transition.toState target = false ∨
                transition.appliesTo task.platform = false)) ∧
        after.ledger.degradations.map (·.fallback) =
          ["declared target refused kept",
            "used on web although declared for other platforms"] := by
  obtain ⟨incoming, after, hrun, hnotes⟩ := exists_of_fallbacks? refusedRun_fallbacks
  exact ⟨_, _, _, _, _, _, incoming, after, hrun, resolve_named_noted hrun, hnotes⟩

/-! Entries of the index. -/

/-- The files in which the edge of an entry is looked for: the one it names, and the one that the
state it leaves leads to. -/
def entryFiles (task : Assignment) (sources : TransitionSources) (session : Session)
    (entry : IndexEntry) : Except Failure (List Path) := do
  let source ← sourceOf task.projectRoot entry
  let located ← sources.locator.located session entry.fromState
  return source ++ located.toList

/-- What the unit in a file, as the session gives it, declares for the edge of an entry. -/
def declaredFor? (session : Session) (entry : IndexEntry) (path : Path) : Option Edge :=
  (session.known path).toOption.bind fun unit =>
    declared? unit.graph entry.fromState entry.event

/-- What an entry comes to, and what is noted about it: a unit completes it, or it stands alone. -/
inductive EntryOutcome (task : Assignment) (sources : TransitionSources) (session : Session)
    (entry : IndexEntry) : Transition → List Degradation → Prop
  | declared {paths : List Path} {path : Path} {edge : Edge}
      (hpaths : entryFiles task sources session entry = .ok paths) (hpath : path ∈ paths)
      (hdeclared : declaredFor? session entry path = some edge) :
      EntryOutcome task sources session entry (completed entry path edge) []
  | undeclared {paths : List Path} {transition : Transition}
      (hpaths : entryFiles task sources session entry = .ok paths)
      (hnone : ∀ path ∈ paths, declaredFor? session entry path = none)
      (htransition : entry.toTransition = .ok transition) :
      EntryOutcome task sources session entry transition [Incoming.undeclared entry paths]

theorem Locator.located_of_sameUnits {first second : Session} (hsame : first.SameUnits second)
    (locator : Locator) (status : String) :
    locator.located second status = locator.located first status := by
  have htells : Locator.tells second status = Locator.tells first status := by
    funext path
    unfold Locator.tells
    rw [hsame.known]
  unfold Locator.located
  rw [hsame.project.files, htells]

theorem EntryOutcome.of_sameUnits {task : Assignment} {sources : TransitionSources}
    {first second : Session} (hsame : first.SameUnits second) {entry : IndexEntry}
    {transition : Transition} {notes : List Degradation}
    (houtcome : EntryOutcome task sources second entry transition notes) :
    EntryOutcome task sources first entry transition notes := by
  have hfiles : entryFiles task sources second entry = entryFiles task sources first entry := by
    unfold entryFiles
    rw [Locator.located_of_sameUnits hsame]
  have hdeclares : declaredFor? second entry = declaredFor? first entry := by
    funext path
    unfold declaredFor?
    rw [hsame.known]
  cases houtcome with
  | declared hpaths hpath hdeclared =>
      exact .declared (hfiles ▸ hpaths) hpath (hdeclares ▸ hdeclared)
  | undeclared hpaths hnone htransition =>
      exact .undeclared (hfiles ▸ hpaths) (hdeclares ▸ hnone) htransition

theorem run_lookUp (task : Assignment) (sources : TransitionSources) (entry : IndexEntry)
    (session : Session) :
    ((lookUp task sources entry).run.run session).1 =
      (entryFiles task sources session entry).map fun paths =>
        (paths, firstShown? session.known entry.fromState entry.event paths) := by
  have hsame := (locate_reads sources entry).keeps session
  unfold lookUp entryFiles
  rw [run_bind_fst, Work.run_ofExcept]
  cases sourceOf task.projectRoot entry with
  | error failure => rfl
  | ok source =>
      change ((sources.locator.locate entry.fromState >>= _).run.run session).1 = _
      rw [run_bind_fst, Locator.run_locate]
      cases sources.locator.located session entry.fromState with
      | error failure => rfl
      | ok located =>
          change ((firstDeclaring Session.unit entry.fromState entry.event
            (source ++ located.toList) >>= _).run.run _).1 = _
          -- the unit is looked for in what locating leaves, where the same units are given
          rw [run_bind_fst, run_firstDeclaring Session.unit_shows, funext hsame.known]
          rfl

theorem outcome_of_run_ofEntry {task : Assignment} {sources : TransitionSources}
    {entry : IndexEntry} {desk after : Desk} {transition : Transition}
    (hrun : (ExceptT.run (ofEntry task sources entry)).run desk = (.ok transition, after)) :
    ∃ notes, EntryOutcome task sources desk.session entry transition notes ∧
      desk.Notes after notes := by
  have hlook := run_lookUp task sources entry desk.session
  rw [run_ofEntry] at hrun
  cases hresult : (lookUp task sources entry).run.run desk.session with
  | mk result session =>
      rw [hresult] at hrun hlook
      dsimp only at hlook
      cases hfiles : entryFiles task sources desk.session entry with
      | error failure =>
          rw [hfiles] at hlook
          subst hlook
          cases hrun
      | ok paths =>
          rw [hfiles] at hlook
          subst hlook
          dsimp only [Except.map] at hrun
          cases hfirst : firstShown? desk.session.known entry.fromState entry.event paths with
          | some first =>
              obtain ⟨path, edge⟩ := first
              rw [hfirst] at hrun
              cases hrun
              obtain ⟨found, hmem, hfound⟩ := List.exists_of_findSome?_eq_some hfirst
              obtain ⟨declared, hdeclared, heq⟩ := Option.map_eq_some_iff.mp hfound
              cases heq
              exact ⟨[], .declared hfiles hmem hdeclared, .none rfl⟩
          | none =>
              rw [hfirst] at hrun
              obtain ⟨htransition, rfl⟩ := Prod.mk.inj hrun
              unfold firstShown? at hfirst
              simp only [List.findSome?_eq_none_iff, Option.map_eq_none_iff] at hfirst
              exact ⟨[undeclared entry paths], .undeclared hfiles hfirst htransition, rfl⟩

/-- The entries come one by one to what each of them comes to at the first desk, and are noted in
their order. -/
theorem outcomes_of_run_mapM {task : Assignment} {sources : TransitionSources}
    {entries : DiscoveryIndex} {desk after : Desk} {transitions : List Transition}
    (hrun : (ExceptT.run (entries.mapM (ofEntry task sources))).run desk =
      (.ok transitions, after)) :
    ∃ outcomes : List (Transition × List Degradation),
      List.Forall₂ (fun entry outcome =>
        EntryOutcome task sources desk.session entry outcome.1 outcome.2) entries outcomes ∧
      transitions = outcomes.map Prod.fst ∧ desk.Notes after (outcomes.flatMap Prod.snd) := by
  induction entries generalizing desk transitions with
  | nil =>
      cases hrun
      exact ⟨[], .nil, rfl, .none rfl⟩
  | cons entry rest ih =>
      rw [List.mapM_cons] at hrun
      obtain ⟨transition, between, hfirst, hrun⟩ := exists_of_run_bind_eq_ok hrun
      obtain ⟨others, last, hrest, hrun⟩ := exists_of_run_bind_eq_ok hrun
      cases hrun
      obtain ⟨notes, houtcome, hnotes⟩ := outcome_of_run_ofEntry hfirst
      obtain ⟨outcomes, houtcomes, rfl, hothers⟩ := ih hrest
      -- what the entry has loaded is what the others would have loaded themselves
      have hsame := (ofEntry_reads task sources entry).keeps.of_run hfirst
      exact ⟨(transition, notes) :: outcomes,
        .cons houtcome (houtcomes.imp fun _ _ hother => hother.of_sameUnits hsame), rfl,
        hnotes.trans hothers⟩

/-- The text of an edge ends in an arrow. -/
theorem departure_ne_withoutAction (fromState event : String) :
    Transition.departure fromState event ≠ "index entry without action details" := by
  intro heq
  have hlast := congrArg (fun text : String => text.toList.getLast?) heq
  rw [Transition.departure, String.toList_append,
    List.getLast?_append_of_ne_nil _ (by decide)] at hlast
  exact absurd hlast (by decide)

theorem PrimaryChoice.fallback {target : String} {previous : Option String}
    {transitions : List Transition} {primary : Option Transition} {notes : List Degradation}
    (hchoice : PrimaryChoice target previous transitions primary notes) :
    ∀ note ∈ notes, note.fallback ≠ "index entry without action details" := by
  cases hchoice with
  | nothing => simp
  | declared => simp
  | only => simp
  | first =>
      intro note hnote
      rw [List.mem_singleton.mp hnote]
      exact departure_ne_withoutAction _ _

/-- Choosing the primary transition is noted in words of its own. -/
theorem notes_of_run_choosePrimary {target : String} {transitions : List Transition}
    {previous : Option String} {desk after : Desk} {result : Except Failure (Option Transition)}
    (hrun : (ExceptT.run (choosePrimary target transitions previous)).run desk =
      (result, after)) :
    ∃ notes, desk.Notes after notes ∧
      ∀ note ∈ notes, note.fallback ≠ "index entry without action details" := by
  obtain ⟨primary, notes, hchoice⟩ := exists_primaryChoice target previous transitions
  rw [hchoice.run desk] at hrun
  cases hrun
  exact ⟨notes, rfl, hchoice.fallback⟩

section

variable {task : Assignment} {sources : TransitionSources} {session : Session}

theorem EntryOutcome.edge {entry : IndexEntry} {transition : Transition}
    {notes : List Degradation}
    (houtcome : EntryOutcome task sources session entry transition notes) :
    transition.edge = entry.edge := by
  cases houtcome with
  | declared => rfl
  | undeclared _ _ htransition =>
      unfold IndexEntry.toTransition at htransition
      split at htransition
      · cases htransition
        rfl
      · cases htransition

theorem EntryOutcome.fallback {entry : IndexEntry} {transition : Transition}
    {notes : List Degradation}
    (houtcome : EntryOutcome task sources session entry transition notes) :
    ∀ note ∈ notes, note.fallback = "index entry without action details" := by
  cases houtcome with
  | declared => simp
  | undeclared =>
      intro note hnote
      rw [List.mem_singleton.mp hnote]
      rfl

variable {entries : DiscoveryIndex} {outcomes : List (Transition × List Degradation)}
  (houtcomes : List.Forall₂ (fun entry outcome =>
    EntryOutcome task sources session entry outcome.1 outcome.2) entries outcomes)

include houtcomes

theorem edges_eq_of_outcomes :
    (outcomes.map Prod.fst).map Transition.edge = entries.map IndexEntry.edge := by
  induction houtcomes with
  | nil => rfl
  | cons houtcome _ ih =>
      rw [List.map_cons, List.map_cons, List.map_cons, ih, houtcome.edge]

theorem fallback_of_outcomes :
    ∀ note ∈ outcomes.flatMap Prod.snd, note.fallback = "index entry without action details" := by
  induction houtcomes with
  | nil => simp
  | cons houtcome _ ih =>
      rw [List.flatMap_cons]
      exact List.forall_mem_append.mpr ⟨houtcome.fallback, ih⟩

end

/-- Where the index tells of transitions, they are its entries, one by one and in their order; each
is noted as standing alone just when no unit declares its edge. -/
theorem resolve_entries_noted {task : Assignment} {sources : TransitionSources}
    {target : String} {previous : Option String} {desk after : Desk}
    {incoming : IncomingTransitions} (hentries : entriesInto task sources target ≠ [])
    (hrun : (ExceptT.run (resolve task sources target none previous)).run desk =
      (.ok incoming, after)) :
    (∃ between, (ExceptT.run (found task sources target)).run desk =
        (.ok (incoming.transitions, .discovery), between)) ∧
      incoming.transitions.map Transition.edge =
        (entriesInto task sources target).map IndexEntry.edge ∧
      ∃ (outcomes : List (Transition × List Degradation)) (notes : List Degradation),
        List.Forall₂ (fun entry outcome =>
          EntryOutcome task sources desk.session entry outcome.1 outcome.2)
          (entriesInto task sources target) outcomes ∧
        incoming.transitions = outcomes.map Prod.fst ∧ desk.Notes after notes ∧
        notes.filter (·.fallback == "index entry without action details") =
          outcomes.flatMap Prod.snd := by
  obtain ⟨between, hmap, hfound, hchoose⟩ := run_resolve_of_entries hentries hrun
  obtain ⟨outcomes, houtcomes, htransitions, hnotes⟩ := outcomes_of_run_mapM hmap
  obtain ⟨choice, hchoice, hother⟩ := notes_of_run_choosePrimary hchoose
  refine ⟨⟨between, hfound⟩, ?_, outcomes, outcomes.flatMap Prod.snd ++ choice, houtcomes,
    htransitions, hnotes.trans hchoice, ?_⟩
  · rw [htransitions]
    exact edges_eq_of_outcomes houtcomes
  · rw [List.filter_append, List.filter_eq_self.mpr fun note hnote =>
        beq_iff_eq.mpr (fallback_of_outcomes houtcomes note hnote),
      List.filter_eq_nil_iff.mpr fun note hnote => by simpa using hother note hnote,
      List.append_nil]

/-- A payment that a unit declares, and one that no unit knows of. -/
def twoPayments : TransitionSources :=
  { unindexed with
    index := some [paidEntry, { event := "SETTLE", fromState := "invoice", toState := "paid" }] }

def twoPaymentsRun : Except Failure IncomingTransitions × Desk :=
  (ExceptT.run (resolve (cartTask { target := "paid" }) twoPayments "paid" none none)).run
    (cartDesk (.text "paid"))

theorem twoPaymentsRun_fallbacks :
    fallbacks? twoPaymentsRun =
      some ["index entry without action details", "cart --PAY-->"] := by
  decide +kernel

theorem twoPaymentsRun_noted :
    ∃ task sources target previous desk incoming after,
      entriesInto task sources target ≠ [] ∧
        (ExceptT.run (resolve task sources target none previous)).run desk =
          (.ok incoming, after) ∧
        ((∃ between, (ExceptT.run (found task sources target)).run desk =
            (.ok (incoming.transitions, .discovery), between)) ∧
          incoming.transitions.map Transition.edge =
            (entriesInto task sources target).map IndexEntry.edge ∧
          ∃ (outcomes : List (Transition × List Degradation)) (notes : List Degradation),
            List.Forall₂ (fun entry outcome =>
              EntryOutcome task sources desk.session entry outcome.1 outcome.2)
              (entriesInto task sources target) outcomes ∧
            incoming.transitions = outcomes.map Prod.fst ∧ desk.Notes after notes ∧
            notes.filter (·.fallback == "index entry without action details") =
              outcomes.flatMap Prod.snd) ∧
        after.ledger.degradations.map (·.fallback) =
          ["index entry without action details", "cart --PAY-->"] := by
  obtain ⟨incoming, after, hrun, hnotes⟩ := exists_of_fallbacks? twoPaymentsRun_fallbacks
  have hentries : entriesInto (cartTask { target := "paid" }) twoPayments "paid" ≠ [] := by
    rw [← List.isEmpty_eq_false_iff]
    decide +kernel
  exact ⟨_, _, _, _, _, incoming, after, hentries, hrun, resolve_entries_noted hentries hrun,
    hnotes⟩

end Incoming

end ScreenFlow
