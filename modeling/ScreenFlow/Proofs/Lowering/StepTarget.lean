import ScreenFlow.Document.Assembly
import ScreenFlow.Proofs.Lowering.Call
import ScreenFlow.Proofs.Scope.Reference
import Mathlib.Data.List.Nodup

/-!
Where the steps of a transition keep their results.  A stored result goes to the variable of its
name, in one line of the step; names that differ have variables that differ as texts.  A transition
with two steps that store under one name is refused, so that no result replaces another.
-/

namespace ScreenFlow

/-! Names that steps share. -/

/-- Two steps of the action store their results under the name. -/
def Action.StoresTwice (action : Action) (name : String) : Prop :=
  ∃ first second : Nat, first < second ∧ action.steps[first]?.bind Step.stored? = some name ∧
    action.steps[second]?.bind Step.stored? = some name

/-- The first of two places in a list is its head, or both lie behind it. -/
theorem exists_places_cons_iff {α : Type} (f : α → Option String) (item : α) (rest : List α)
    (name : String) :
    (∃ first second : Nat, first < second ∧ (item :: rest)[first]?.bind f = some name ∧
        (item :: rest)[second]?.bind f = some name) ↔
      (f item = some name ∧ name ∈ rest.filterMap f) ∨
        ∃ first second : Nat, first < second ∧ rest[first]?.bind f = some name ∧
          rest[second]?.bind f = some name := by
  constructor
  · rintro ⟨_ | first, _ | second, hlt, hfirst, hsecond⟩
    · exact absurd hlt (Nat.lt_irrefl _)
    · obtain ⟨other, hother, hname⟩ := Option.bind_eq_some_iff.mp hsecond
      exact .inl ⟨hfirst, List.mem_filterMap.mpr ⟨other, List.mem_of_getElem? hother, hname⟩⟩
    · exact absurd hlt (Nat.not_lt_zero _)
    · exact .inr ⟨first, second, Nat.lt_of_succ_lt_succ hlt, hfirst, hsecond⟩
  · rintro (⟨hitem, hname⟩ | ⟨first, second, hlt, hfirst, hsecond⟩)
    · obtain ⟨other, hother, hname⟩ := List.mem_filterMap.mp hname
      obtain ⟨place, hplace⟩ := List.mem_iff_getElem?.mp hother
      exact ⟨0, place + 1, place.succ_pos, hitem,
        Option.bind_eq_some_iff.mpr ⟨other, hplace, hname⟩⟩
    · exact ⟨first + 1, second + 1, Nat.succ_lt_succ hlt, hfirst, hsecond⟩

theorem count_filterMap_cons_of_ne {α : Type} {f : α → Option String} {item : α} {name : String}
    (hitem : f item ≠ some name) (rest : List α) :
    ((item :: rest).filterMap f).count name = (rest.filterMap f).count name := by
  cases hother : f item with
  | none => rw [List.filterMap_cons_none hother]
  | some other =>
      rw [List.filterMap_cons_some hother, List.count_cons_of_ne]
      rintro rfl
      exact hitem hother

theorem one_lt_count_filterMap_iff {α : Type} (f : α → Option String) (items : List α)
    (name : String) :
    1 < (items.filterMap f).count name ↔
      ∃ first second : Nat, first < second ∧ items[first]?.bind f = some name ∧
        items[second]?.bind f = some name := by
  induction items with
  | nil => simp
  | cons item rest ih =>
      rw [exists_places_cons_iff, ← ih, ← List.count_pos_iff]
      by_cases hitem : f item = some name
      · rw [List.filterMap_cons_some hitem, List.count_cons_self]
        simp only [hitem, true_and]
        omega
      · simp only [count_filterMap_cons_of_ne hitem, hitem, false_and, false_or]

theorem Action.one_lt_count_storedNames_iff (action : Action) (name : String) :
    1 < action.storedNames.count name ↔ action.StoresTwice name :=
  one_lt_count_filterMap_iff Step.stored? action.steps name

theorem Action.storedNames_nodup_iff (action : Action) :
    action.storedNames.Nodup ↔ ∀ name, ¬ action.StoresTwice name := by
  simp only [List.nodup_iff_count_le_one, ← one_lt_count_storedNames_iff, Nat.not_lt]

namespace Transition

/-- Two steps of the transition store their results under one name. -/
def StoresTwice (transition : Transition) : Prop :=
  ∃ action, transition.action = some action ∧ ∃ name, action.StoresTwice name

theorem mem_repeatedNames_iff (names : List String) (name : String) :
    name ∈ repeatedNames names ↔ 1 < names.count name := by
  rw [repeatedNames, List.mem_mergeSort, List.mem_eraseDups, List.mem_filter,
    decide_eq_true_iff]
  exact ⟨And.right, fun hcount => ⟨List.count_pos_iff.mp (Nat.lt_of_succ_lt hcount), hcount⟩⟩

theorem mem_repeatedNames_storedNames_iff (action : Action) (name : String) :
    name ∈ repeatedNames action.storedNames ↔ action.StoresTwice name := by
  rw [mem_repeatedNames_iff, action.one_lt_count_storedNames_iff]

/-- What is found is the first transition that stores twice, with the names it does that under. -/
theorem exists_of_repeatedStore? {transitions : List Transition} {found : Transition}
    {names : List String} (hfound : repeatedStore? transitions = some (found, names)) :
    ∃ before after action, transitions = before ++ found :: after ∧
      repeatedStore? before = none ∧ found.action = some action ∧ names ≠ [] ∧
      ∀ name, name ∈ names ↔ action.StoresTwice name := by
  obtain ⟨before, transition, after, rfl, hnames, hbefore⟩ :=
    List.findSome?_eq_some_iff.mp hfound
  split at hnames
  · cases hnames
  · next action haction =>
      dsimp only at hnames
      split at hnames
      · cases hnames
      · next hfilled =>
          cases hnames
          exact ⟨before, after, action, rfl, List.findSome?_eq_none_iff.mpr hbefore, haction,
            by simpa using hfilled, mem_repeatedNames_storedNames_iff action⟩

theorem repeatedStore?_eq_none_iff (transitions : List Transition) :
    repeatedStore? transitions = none ↔ ∀ transition ∈ transitions, ¬ transition.StoresTwice := by
  constructor
  · rintro hnone transition htransition ⟨action, haction, name, hname⟩
    have hempty := List.findSome?_eq_none_iff.mp hnone transition htransition
    rw [haction] at hempty
    have hmem := (mem_repeatedNames_storedNames_iff action name).mpr hname
    simp [List.ne_nil_of_mem hmem] at hempty
  · intro hall
    cases hstore : repeatedStore? transitions with
    | none => rfl
    | some found =>
        obtain ⟨before, after, action, rfl, -, haction, hnames, hiff⟩ :=
          exists_of_repeatedStore? hstore
        obtain ⟨name, hname⟩ := List.exists_mem_of_ne_nil found.2 hnames
        exact absurd ⟨action, haction, name, (hiff name).mp hname⟩ (hall found.1 (by simp))

theorem checkStores_eq_ok_iff (transitions : List Transition) :
    checkStores transitions = .ok () ↔ ∀ transition ∈ transitions, ¬ transition.StoresTwice := by
  rw [← repeatedStore?_eq_none_iff, checkStores]
  cases repeatedStore? transitions <;> simp

theorem exists_checkStores_eq_error_iff (transitions : List Transition) :
    (∃ failure, checkStores transitions = .error failure) ↔
      ∃ transition ∈ transitions, transition.StoresTwice := by
  have hok := checkStores_eq_ok_iff transitions
  cases hcheck : checkStores transitions with
  | ok =>
      refine iff_of_false (fun ⟨_, hfailure⟩ => by cases hfailure) ?_
      rintro ⟨transition, htransition, htwice⟩
      exact hok.mp hcheck transition htransition htwice
  | error failure =>
      refine iff_of_true ⟨failure, rfl⟩ ?_
      by_contra hnone
      have haccepted := hok.mpr fun transition htransition htwice =>
        hnone ⟨transition, htransition, htwice⟩
      rw [hcheck] at haccepted
      cases haccepted

/-- The failure names the first transition that stores twice, and the names. -/
theorem exists_of_checkStores_eq_error {transitions : List Transition} {failure : Failure}
    (hcheck : checkStores transitions = .error failure) :
    ∃ before transition after action names, transitions = before ++ transition :: after ∧
      (∀ earlier ∈ before, ¬ earlier.StoresTwice) ∧ transition.action = some action ∧
      (∀ name, name ∈ names ↔ action.StoresTwice name) ∧
      failure = .validation (.repeatedNames names transition.fromState transition.event
        transition.toState) := by
  unfold checkStores at hcheck
  split at hcheck
  · next found names hfound =>
      cases hcheck
      obtain ⟨before, after, action, rfl, hbefore, haction, -, hnames⟩ :=
        exists_of_repeatedStore? hfound
      exact ⟨before, found, after, action, names, rfl,
        (repeatedStore?_eq_none_iff before).mp hbefore, haction, hnames, rfl⟩
  · cases hcheck

end Transition

namespace Lowering

/-! Variables of stored results. -/

theorem takeWhile_of_isPlainName {name : List Char} (hplain : Script.isPlainName name = true)
    (rest : List Char) : (name ++ ' ' :: rest).takeWhile (· != ' ') = name := by
  have hname : ∀ c ∈ name, (c != ' ') = true := by
    rintro c hc
    rcases Script.isNamePart_of_isPlainName hplain c hc with hpart | rfl
    · exact bne_iff_ne.mpr fun heq => absurd (heq ▸ hpart) (by decide)
    · rfl
  rw [List.takeWhile_append_of_pos hname, List.takeWhile_cons_of_neg (by decide), List.append_nil]

/-- The access text of a name can be told from what follows it behind a space. -/
theorem accessText_space_inj {first second after last : List Char}
    (heq : Script.accessText first ++ ' ' :: after = Script.accessText second ++ ' ' :: last) :
    first = second := by
  unfold Script.accessText at heq
  split_ifs at heq with hfirst hsecond hsecond
  · simp only [List.cons_append, List.cons.injEq, true_and] at heq
    rw [← takeWhile_of_isPlainName hfirst after, heq, takeWhile_of_isPlainName hsecond]
  · simp at heq
  · simp at heq
  · simp only [List.cons_append, List.append_assoc, List.cons.injEq, true_and] at heq
    exact (Script.encode_append_inj heq).1

/-- The line assigns to the variable of a stored result, by itself or under a condition. -/
def AssignsTo (line target : String) : Prop :=
  ∃ name expression, target = Scope.storedTarget name ∧
    (line = target ++ " = " ++ expression ∨ line = indent ++ (target ++ " = " ++ expression))

theorem assigned_inj {first second expression other : String}
    (heq : Scope.storedTarget first ++ " = " ++ expression =
      Scope.storedTarget second ++ " = " ++ other) : first = second := by
  have hchars := congrArg String.toList heq
  simp only [Scope.storedTarget, String.toList_append, Script.toList_member, List.append_assoc,
    List.append_cancel_left_eq] at hchars
  exact String.toList_inj.mp (accessText_space_inj hchars)

theorem storedTarget_injective : Function.Injective Scope.storedTarget := by
  intro first second heq
  have hassigned : Scope.storedTarget first ++ " = " ++ "" =
      Scope.storedTarget second ++ " = " ++ "" := by rw [heq]
  exact assigned_inj hassigned

/-- An assignment starts with the variable, one under a condition with the indent. -/
theorem AssignsTo.head? {line target : String} (hline : AssignsTo line target) :
    line.toList.head? = some 's' ∨ line.toList.head? = some ' ' := by
  obtain ⟨name, expression, rfl, rfl | rfl⟩ := hline
  · refine .inl ?_
    rw [String.toList_append, String.toList_append, List.head?_append, List.head?_append,
      Scope.head?_storedTarget]
    rfl
  · refine .inr ?_
    rw [String.toList_append]
    rfl

theorem not_assignsTo_of_head? {line : String} {c : Char} (hhead : line.toList.head? = some c)
    (hvariable : c ≠ 's') (hindent : c ≠ ' ') (target : String) : ¬ AssignsTo line target := by
  intro hline
  rcases hline.head? with hfirst | hfirst <;>
    rw [hhead, Option.some.injEq] at hfirst
  · exact hvariable hfirst
  · exact hindent hfirst

theorem assignsTo_statement (name expression : String) :
    AssignsTo (statement (some name) expression) (Scope.storedTarget name) :=
  ⟨name, expression ++ ";", rfl, .inl (by simp only [statement, String.append_assoc])⟩

theorem assignsTo_indented_statement (name expression : String) :
    AssignsTo (indent ++ statement (some name) expression) (Scope.storedTarget name) :=
  ⟨name, expression ++ ";", rfl, .inr (by simp only [statement, String.append_assoc])⟩

/-- No line assigns to two variables. -/
theorem AssignsTo.unique {line first second : String} (hfirst : AssignsTo line first)
    (hsecond : AssignsTo line second) : first = second := by
  obtain ⟨name, expression, rfl, hfirst⟩ := hfirst
  obtain ⟨other, last, rfl, hsecond⟩ := hsecond
  have hapart (name other expression last : String) :
      Scope.storedTarget name ++ " = " ++ expression ≠
        indent ++ (Scope.storedTarget other ++ " = " ++ last) := by
    intro heq
    have hhead := congrArg (fun text => text.toList.head?) heq
    simp only [String.toList_append, List.head?_append, Scope.head?_storedTarget] at hhead
    cases hhead
  rcases hfirst with rfl | rfl <;> rcases hsecond with heq | heq
  · rw [assigned_inj heq]
  · exact absurd heq (hapart _ _ _ _)
  · exact absurd heq.symm (hapart _ _ _ _)
  · rw [assigned_inj (String.append_right_inj indent |>.mp heq)]

theorem AssignsTo.iff {line target : String} (hline : AssignsTo line target) (other : String) :
    AssignsTo line other ↔ other = target :=
  ⟨fun hother => hother.unique hline, fun heq => heq ▸ hline⟩

/-! Steps. -/

/-- The lines carry out the step: they are one call of its method, alone or under a condition.  A
result that the step stores goes to the variable of its name in one of the lines, and the other
lines assign to no such variable. -/
structure CarriesOut (step : Step) (lines : List String) : Prop where
  call : ∃ call, call.method = step.method ∧ call.stored = step.stored? ∧ Emits [call] lines
  target : ∀ name ∈ step.stored?, ∃ before line after, lines = before ++ line :: after ∧
    (∀ target, AssignsTo line target ↔ target = Scope.storedTarget name) ∧
    ∀ other ∈ before ++ after, ∀ target, ¬ AssignsTo other target

theorem carriesOut_stepLines (app : String) (fields : List String) (earlier : List Step)
    (step : Step) :
    CarriesOut step (stepLines step app (Scope.ofSteps earlier ++ Scope.ofFields fields)) := by
  refine ⟨⟨stepCall app fields earlier step, rfl, rfl, ?_⟩, fun name hname => ?_⟩
  · simpa using Emits.nil.step app fields earlier step
  · rw [Option.mem_def] at hname
    unfold stepLines stepStatement
    rw [hname]
    split
    · refine ⟨[_], _, ["\x7d"], rfl, (assignsTo_indented_statement name _).iff, ?_⟩
      intro other hother
      rcases List.mem_pair.mp hother with rfl | rfl
      · refine not_assignsTo_of_head? (c := 'i') ?_ (by decide) (by decide)
        rw [String.toList_append, String.toList_append]
        rfl
      · exact not_assignsTo_of_head? (c := '\x7d') rfl (by decide) (by decide)
    · exact ⟨[], _, [], rfl, (assignsTo_statement name _).iff, by simp⟩

theorem forall₂_carriesOut_stepGroups (app : String) (fields : List String)
    (steps earlier : List Step) :
    List.Forall₂ CarriesOut steps (stepGroups app fields earlier steps) := by
  induction steps generalizing earlier with
  | nil => exact .nil
  | cons step rest ih =>
      exact .cons (carriesOut_stepLines app fields earlier step) (ih (earlier ++ [step]))

/-- The steps of a transition that is accepted keep their results in variables that differ as texts:
the lines of each step that stores assign once, to the variable of its name.  Transitions are
refused exactly when the steps of one of them store two results under one name; the failure is that
of the first, with all these names. -/
theorem stored_targets_distinct (transitions : List Transition) :
    (Transition.checkStores transitions = .ok () → ∀ transition ∈ transitions,
      ∀ action ∈ transition.action, ∀ app fields ledger, ∃ groups after,
        (steps action.steps app fields).run ledger = (.ok groups.flatten, after) ∧
        List.Forall₂ CarriesOut action.steps groups ∧
        (action.steps.filterMap fun step => step.stored?.map Scope.storedTarget).Nodup) ∧
    ((∃ failure, Transition.checkStores transitions = .error failure) ↔
      ∃ transition ∈ transitions, transition.StoresTwice) ∧
    ∀ failure, Transition.checkStores transitions = .error failure →
      ∃ before transition after action names, transitions = before ++ transition :: after ∧
        (∀ earlier ∈ before, ¬ earlier.StoresTwice) ∧ transition.action = some action ∧
        (∀ name, name ∈ names ↔ action.StoresTwice name) ∧
        failure = .validation (.repeatedNames names transition.fromState transition.event
          transition.toState) := by
  refine ⟨fun hcheck transition htransition action haction app fields ledger => ?_,
    Transition.exists_checkStores_eq_error_iff transitions,
    fun failure => Transition.exists_of_checkStores_eq_error⟩
  refine ⟨stepGroups app fields [] action.steps, action.steps.foldl (Ledger.addStep app) ledger,
    run_stepsFrom [] app fields action.steps ledger,
    forall₂_carriesOut_stepGroups app fields action.steps [], ?_⟩
  · have hnames : action.storedNames.Nodup :=
      action.storedNames_nodup_iff.mpr fun name hname =>
        (Transition.checkStores_eq_ok_iff transitions).mp hcheck transition htransition
          ⟨action, haction, name, hname⟩
    have htargets := hnames.map storedTarget_injective
    rwa [Action.storedNames, List.map_filterMap] at htargets

/-- Booking and paying.  The second name stands in quotes, and its step under a condition. -/
def bookingTransition : Transition where
  event := "BOOK"
  fromState := "cart"
  toState := "booked"
  action := some { steps := [
    { object := "shop", method := "book", storeAs := some "id" },
    { object := "shop", method := "wait" },
    { object := "shop", method := "pay", storeAs := some "order id",
      conditions := .map [(.name "field", .text "price")] }] }

theorem bookingTransition_targets :
    (∃ groups after, (steps ((bookingTransition.action.map (·.steps)).getD []) "page" []).run {} =
        (.ok groups.flatten, after) ∧
      List.Forall₂ CarriesOut ((bookingTransition.action.map (·.steps)).getD []) groups) ∧
    (["storedVars.id", "storedVars['order id']"] : List String).Nodup ∧
    ¬ bookingTransition.StoresTwice := by
  obtain ⟨haccepted, hrefused, -⟩ := stored_targets_distinct [bookingTransition]
  have hcheck : Transition.checkStores [bookingTransition] = .ok () := by decide +kernel
  obtain ⟨groups, after, hrun, hgroups, htargets⟩ :=
    haccepted hcheck _ (List.mem_singleton_self _) _ rfl "page" [] {}
  refine ⟨⟨groups, after, hrun, hgroups⟩, htargets, fun htwice => ?_⟩
  obtain ⟨failure, hfailure⟩ := hrefused.mpr ⟨_, List.mem_singleton_self _, htwice⟩
  rw [hcheck] at hfailure
  cases hfailure

end Lowering

end ScreenFlow
