import ScreenFlow.Graph.State
import ScreenFlow.Proofs.Schema.Replaced

/-!
Graphs with placeholders.  A graph stays readable when one of its parts is computed, except at two
kinds of fields: what is done on an edge, as a whole, and whether a step is waited for.
-/

namespace ScreenFlow

open Positions Schema

/-! What is done. -/

theorem Reference.read_breaksAt :
    BreaksAt (fun value => (Reference.read value).accepted) (inRecord fun _ _ => nowhere) := by
  unfold Reference.read
  refine FieldsBreakAt.record (.of_eq (
    ((FieldsBreakAt.required string_breaksAt).map _)
      |>.seq (.optional optionalString_breaksAt)
      |>.seq (.optional optionalString_breaksAt)) ?_)
  simp [field_nowhere]

namespace Step

/-- Whether the step is waited for. -/
def fragile : Entries → Key → Positions :=
  field ⟨"await", "is_async"⟩ whole

theorem read_breaksAt :
    BreaksAt (fun value => (Step.read value).accepted) (inRecord fragile) := by
  unfold read
  refine FieldsBreakAt.record (.of_eq (
    ((FieldsBreakAt.optional string_breaksAt).map _)
      |>.seq (.required string_breaksAt)
      |>.seq (.optional values_breaksAt)
      |>.seq (.optional stringOrNone_breaksAt)
      |>.seq (.optional any_breaksAt)
      |>.seq (.optional bool_breaksAt)
      |>.seqLeft .onlyNames) ?_)
  simp [field_nowhere, fragile]

end Step

namespace Action

/-- In the steps. -/
def fragile : Entries → Key → Positions :=
  field (.same "steps") (inItems (inMap Step.fragile))

theorem read_breaksAt :
    BreaksAt (fun value => (Action.read value).accepted) (inRecord fragile) := by
  have himports := recordsOnly_breaksAt Reference.read_breaksAt
  rw [inMap_nowhere, inItems_nowhere] at himports
  unfold read
  refine FieldsBreakAt.record (.of_eq (
    ((FieldsBreakAt.optional stringOrNone_breaksAt).map _)
      |>.seq (.optional himports)
      |>.seq (.optional (recordsOnly_breaksAt Step.read_breaksAt))
      |>.seqLeft .onlyNames) ?_)
  simp [field_nowhere, fragile]

end Action

/-! Edges. -/

namespace Edge

/-- What is done on the edge, inside and as a whole: nothing else may stand in its place. -/
def fields : Entries → Key → Positions :=
  field ⟨"actionDetails", "action_details"⟩ (inRecord Action.fragile)

/-- In the fields of the edge, or of the first of a list of edges. -/
def fragile (position : List Branch) (value : Value) : Bool :=
  match value with
  | .list items =>
      match position, items with
      | .item 0 :: rest, first :: _ => inMap fields rest first
      | _, _ => false
  | value => inMap fields position value

theorem optionalAction_breaksAt :
    BreaksAt (fun value => (optionalAction value).accepted) (inRecord Action.fragile) := by
  have hsome : ∀ value : Value, value ≠ .null →
      (optionalAction value).accepted = (Action.read value).accepted := by
    intro value hvalue
    have hread : optionalAction value = (Action.read value).map some := by
      cases value <;> first | rfl | exact absurd rfl hvalue
    rw [hread, Reading.accepted_map]
  intro value new changed position haccepted hnew hreplaced
  dsimp only at haccepted ⊢
  rw [hsome changed (Value.ne_null_of_replaced hnew hreplaced)]
  cases value with
  | null =>
      obtain ⟨rfl, rfl⟩ := Value.replaced_of_childless rfl rfl hreplaced
      unfold Action.read
      rw [accepted_record, Value.entries?_of_isPlaceholder hnew]
      rfl
  | map entries =>
      rw [hsome _ Value.noConfusion] at haccepted
      exact Action.read_breaksAt haccepted hnew hreplaced
  | _ => cases haccepted

theorem fields_breakAt : FieldsBreakAt (fun entries => Edge.read (.map entries)) fields := by
  change FieldsBreakAt (fun entries => _ <* onlyNames entries) _
  refine .of_eq (
    ((FieldsBreakAt.required string_breaksAt).map _)
      |>.seq (.optional strings_breaksAt)
      |>.seq (.optional optionalAction_breaksAt)
      |>.seqLeft .onlyNames) ?_
  simp [field_nowhere, fields]

/-- What can be the only edge of a list: a target alone, or a map. -/
def acceptsOne (value : Value) : Bool :=
  value.isString || value.entries?.any fun entries => (Edge.read (.map entries)).accepted

theorem accepted_read_list (first : Value) (others : List Value) :
    (Edge.read (.list (first :: others))).accepted = acceptsOne first := by
  cases first <;> rfl

theorem accepted_read_one {value : Value} (hlist : ∀ items, value ≠ .list items) :
    (Edge.read value).accepted = acceptsOne value := by
  cases value <;> first | rfl | exact absurd rfl (hlist _)

theorem acceptsOne_breaksAt : BreaksAt acceptsOne (inMap fields) := by
  intro value new changed position haccepts hnew hreplaced
  cases position with
  | nil =>
      cases hreplaced
      unfold acceptsOne
      rw [Value.isString_of_isPlaceholder hnew]
      rfl
  | cons branch rest =>
      cases value with
      | map entries =>
          obtain ⟨key, child, inner, rfl, hchild, hinner, rfl⟩ := Value.replaced_map hreplaced
          rw [inMap_child fields hchild]
          exact fields_breakAt haccepts hnew hchild hinner
      | list items => cases haccepts
      | tuple items => cases haccepts
      | _ => cases (Value.replaced_of_childless rfl rfl hreplaced).1

-- The first of a list is replaced as an edge of its own; the others do not matter.
theorem read_list_breaksAt {items : List Value} {new changed : Value} {position : List Branch}
    (haccepted : (Edge.read (.list items)).accepted = true) (hnew : new.isPlaceholder = true)
    (hreplaced : (Value.list items).replaced position new = some changed) :
    (Edge.read changed).accepted = !fragile position (.list items) := by
  cases position with
  | nil =>
      cases hreplaced
      have hlist : ∀ items, new ≠ .list items := by
        rintro items rfl
        cases hnew
      rw [accepted_read_one hlist, acceptsOne, Value.isString_of_isPlaceholder hnew]
      rfl
  | cons branch rest =>
      obtain ⟨child, hchild, inner, hinner, rfl⟩ := Value.replaced_cons_eq_some.mp hreplaced
      cases branch with
      | key key => cases hchild
      | item number =>
          cases items with
          | nil => cases hchild
          | cons first others =>
              rw [accepted_read_list] at haccepted
              cases number with
              | zero =>
                  cases hchild
                  exact (accepted_read_list inner others).trans
                    (acceptsOne_breaksAt haccepted hnew hinner)
              | succ number =>
                  exact (accepted_read_list first (others.set number inner)).trans haccepted

theorem read_breaksAt : BreaksAt (fun value => (Edge.read value).accepted) fragile := by
  intro value new changed position haccepted hnew hreplaced
  dsimp only at haccepted ⊢
  by_cases hlist : ∃ items, value = .list items
  · obtain ⟨items, rfl⟩ := hlist
    exact read_list_breaksAt haccepted hnew hreplaced
  · have hvalue : ∀ items, value ≠ .list items := fun items heq => hlist ⟨items, heq⟩
    have hchanged : ∀ items, changed ≠ .list items := by
      rintro items rfl
      cases position with
      | nil =>
          cases hreplaced
          cases hnew
      | cons branch rest =>
          obtain ⟨child, -, inner, -, hparts⟩ := Value.replaced_cons_eq_some.mp hreplaced
          cases value <;> cases branch <;> first | exact hvalue _ rfl | cases hparts
    rw [accepted_read_one hvalue] at haccepted
    rw [accepted_read_one hchanged, acceptsOne_breaksAt haccepted hnew hreplaced]
    cases value <;> first | rfl | exact absurd rfl (hvalue _)

end Edge

/-! States. -/

namespace StateMeta

/-- In what is done; given up as a whole it is left out. -/
def fragile : Entries → Key → Positions :=
  field ⟨"actionDetails", "action_details"⟩ (inMap Action.fragile)

theorem accepted_mapOrNone {α : Type} (read : Value → Reading α) (value : Value) :
    (mapOrNone read value).accepted = (!value.isMap || (read value).accepted) := by
  unfold mapOrNone
  cases value.isMap with
  | true => exact Reading.accepted_map _ _
  | false => rfl

theorem action_breaksAt :
    BreaksAt (fun value => (mapOrNone Action.read value).accepted) (inMap Action.fragile) :=
  Action.read_breaksAt.mapOnly.of_eq (accepted_mapOrNone Action.read) fun _ _ => rfl

theorem names_breaksAt :
    BreaksAt (fun value => value.entries?.all fun entries => entries.all fun entry =>
      entry.1.isName && true) nowhere := by
  rw [← inMap_nowhere]
  exact .entries fun key => (BreaksAt.const true).and_left key.isName

theorem requires_breaksAt :
    BreaksAt (fun value => (namedValues (mapOrEmpty value)).accepted) nowhere := by
  refine names_breaksAt.of_eq (fun value => ?_) fun _ _ => rfl
  cases value with
  | map entries => exact accepted_mapOf Schema.any entries
  | _ => rfl

theorem mirrorsOn_breaksAt :
    BreaksAt (fun value => (mapOrNone namedValues value).accepted) nowhere := by
  refine names_breaksAt.of_eq (fun value => ?_) fun _ _ => rfl
  rw [accepted_mapOrNone]
  cases value with
  | map entries => exact accepted_mapOf Schema.any entries
  | _ => rfl

theorem setup_breaksAt :
    BreaksAt (fun value => (recordsOnly Setup.read value).accepted) nowhere := by
  rw [← inItems_nowhere, ← inMap_nowhere]
  refine recordsOnly_breaksAt ?_
  unfold Setup.read
  refine FieldsBreakAt.record (.of_eq (
    ((FieldsBreakAt.optional stringOrNone_breaksAt).map _)
      |>.seq (.optional stringOrNone_breaksAt)
      |>.seq (.optional stringOrNone_breaksAt)
      |>.seqLeft .onlyNames) ?_)
  simp [field_nowhere]

theorem fields_breakAt :
    FieldsBreakAt (fun entries => StateMeta.read (.map entries)) fragile := by
  change FieldsBreakAt (fun entries => _ <* onlyNames entries) _
  refine .of_eq (
    ((FieldsBreakAt.optional stringOrNone_breaksAt).map _)
      |>.seq (.optional stringOrNone_breaksAt)
      |>.seq (.optional stringOrNone_breaksAt)
      |>.seq (.optional strings_breaksAt)
      |>.seq (.optional setup_breaksAt)
      |>.seq (.optional requires_breaksAt)
      |>.seq (.optional stringOrNone_breaksAt)
      |>.seq (.optional stringOrNone_breaksAt)
      |>.seq (.optional stringOrNone_breaksAt)
      |>.seq (.optional stringOrNone_breaksAt)
      |>.seq (.optional stringOrNone_breaksAt)
      |>.seq (.optional stringOrNone_breaksAt)
      |>.seq (.optional action_breaksAt)
      |>.seq (.optional any_breaksAt)
      |>.seq (.optional mirrorsOn_breaksAt)
      |>.seqLeft .onlyNames) ?_
  simp [field_nowhere, fragile]

theorem read_breaksAt :
    BreaksAt (fun value => (StateMeta.read value).accepted) (inMap fragile) := by
  refine fields_breakAt.mapOnly fun value hmap => ?_
  cases value <;> first | rfl | cases hmap

end StateMeta

namespace StateRecord

/-- In an edge that can be followed. -/
def edgeFragile : Positions :=
  fun position edge => isFollowable edge && Edge.fragile position edge

def fragile (entries : Entries) (key : Key) : Positions :=
  either (field (.same "meta") (inMap StateMeta.fragile) entries key)
    (field (.same "on") (inEntries edgeFragile) entries key)

theorem isFollowable_of_isPlaceholder {edge : Value} (hplaceholder : edge.isPlaceholder = true) :
    isFollowable edge = false := by
  unfold isFollowable
  rw [hplaceholder]
  rfl

theorem isFollowable_map (entries : Entries) :
    isFollowable (.map entries) =
      !(Value.orNull (entries.lookup (.name "target"))).isPlaceholder := by
  rw [← Entries.get?_eq_lookup]
  rfl

theorem isFollowable_put {entries : Entries} {key : Key} {child : Value} (changed : Value)
    (hchild : entries.lookup key = some child) :
    isFollowable (.map (entries.put key changed)) =
      if key = .name "target" then !changed.isPlaceholder else isFollowable (.map entries) := by
  rw [isFollowable_map, isFollowable_map, Entries.lookup_put changed hchild]
  by_cases hkey : key = .name "target"
  · rw [if_pos hkey.symm, if_pos hkey]
    rfl
  · rw [if_neg (Ne.symm hkey), if_neg hkey]

/-- A placeholder never makes an edge one that can be followed. -/
theorem isFollowable_of_replaced {edge new changed : Value} {position : List Branch}
    (hnew : new.isPlaceholder = true) (hreplaced : edge.replaced position new = some changed)
    (hchanged : isFollowable changed = true) : isFollowable edge = true := by
  cases position with
  | nil =>
      cases hreplaced
      rw [isFollowable_of_isPlaceholder hnew] at hchanged
      cases hchanged
  | cons branch rest =>
      cases edge with
      | map entries =>
          obtain ⟨key, child, inner, rfl, hchild, hinner, rfl⟩ := Value.replaced_map hreplaced
          rw [isFollowable_put inner hchild] at hchanged
          by_cases hkey : key = .name "target"
          · subst hkey
            rw [if_pos rfl] at hchanged
            rw [isFollowable_map, hchild]
            change (!child.isPlaceholder) = true
            cases hplaceholder : child.isPlaceholder with
            | false => rfl
            | true =>
                obtain ⟨-, rfl⟩ := Value.replaced_of_childless
                  (Value.entries?_of_isPlaceholder hplaceholder)
                  (Value.items?_of_isPlaceholder hplaceholder) hinner
                rw [hnew] at hchanged
                cases hchanged
          · rwa [if_neg hkey] at hchanged
      | list items =>
          cases items with
          | nil =>
              obtain ⟨child, hchild, -⟩ := Value.replaced_cons_eq_some.mp hreplaced
              cases branch <;> cases hchild
          | cons first others => rfl
      | tuple items => rfl
      | _ => cases (Value.replaced_of_childless rfl rfl hreplaced).1

/-- An edge that cannot be followed any more has lost its target. -/
theorem edge_of_lost {edge new changed : Value} {position : List Branch}
    (hreplaced : edge.replaced position new = some changed)
    (hedge : isFollowable edge = true) (hchanged : isFollowable changed = false) :
    Edge.fragile position edge = false := by
  cases position with
  | nil => cases edge <;> rfl
  | cons branch rest =>
      cases edge with
      | map entries =>
          obtain ⟨key, child, inner, rfl, hchild, hinner, rfl⟩ := Value.replaced_map hreplaced
          rw [isFollowable_put inner hchild] at hchanged
          by_cases hkey : key = .name "target"
          · subst hkey
            change inMap Edge.fields (.key (.name "target") :: rest) (.map entries) = false
            rw [inMap_child Edge.fields hchild]
            unfold Edge.fields field
            cases hused : given? entries ⟨"actionDetails", "action_details"⟩ with
            | none => rfl
            | some used =>
                have hname : Key.name "target" ≠ .name used.1 := by
                  rcases (of_given? hused).1 with hname | hname <;> rw [hname] <;> decide
                rw [Option.any_some, beq_false_of_ne hname, Bool.false_and]
          · rw [if_neg hkey, hedge] at hchanged
            cases hchanged
      | list items =>
          obtain ⟨child, hchild, inner, -, rfl⟩ := Value.replaced_cons_eq_some.mp hreplaced
          cases branch with
          | key key => cases hchild
          | item number =>
              cases items with
              | nil => cases hchild
              | cons first others => cases number <;> cases hchanged
      | tuple items =>
          obtain ⟨child, hchild, inner, -, rfl⟩ := Value.replaced_cons_eq_some.mp hreplaced
          cases branch with
          | key key => cases hchild
          | item number => cases hchanged
      | _ => cases (Value.replaced_of_childless rfl rfl hreplaced).1

theorem on_breaksAt :
    BreaksAt (fun value => (mapOf Edge.read (followable value)).accepted)
      (inEntries edgeFragile) := by
  have hedges : ∀ key : Key, BreaksAt
      (fun edge => !isFollowable edge || (key.isName && (Edge.read edge).accepted)) edgeFragile :=
    fun key => (Edge.read_breaksAt.and_left key.isName).kept
      (fun _ _ _ _ hnew hreplaced => isFollowable_of_replaced hnew hreplaced)
      (fun _ _ _ _ _ hreplaced => edge_of_lost hreplaced)
  refine (BreaksAt.entries hedges).of_eq (fun value => ?_) fun _ _ => rfl
  cases value with
  | map entries => exact (accepted_mapOf Edge.read _).trans List.all_filter
  | _ => rfl

theorem readParts_breakAt : FieldsBreakAt readParts fragile := by
  unfold readParts
  refine .of_eq (
    ((FieldsBreakAt.optional StateMeta.read_breaksAt).map _)
      |>.seq (.optional any_breaksAt)
      |>.seq (.optional on_breaksAt)) ?_
  simp [field_nowhere, fragile]

theorem read_breaksAt :
    BreaksAt (fun value => (StateRecord.read value).accepted) (inRecord fragile) := by
  unfold read
  refine FieldsBreakAt.record (.of_eq (readParts_breakAt.seqLeft .onlyNames) ?_)
  simp

end StateRecord

/-! Graphs. -/

namespace StateGraph

def fragile (entries : Entries) (key : Key) : Positions :=
  either (StateRecord.fragile entries key)
    (field (.same "states") (inEntries (inMap StateRecord.fragile)) entries key)

theorem states_breaksAt :
    BreaksAt (fun value => (mapOf StateRecord.read (recordsOnly value)).accepted)
      (inEntries (inMap StateRecord.fragile)) := by
  have hstates := BreaksAt.entries fun key =>
    (StateRecord.read_breaksAt.and_left key.isName).mapOnly
  refine hstates.of_eq (fun value => ?_) fun _ _ => rfl
  cases value with
  | map entries => exact (accepted_mapOf StateRecord.read _).trans List.all_filter
  | _ => rfl

theorem read_breaksAt :
    BreaksAt (fun value => (StateGraph.read value).accepted) (inRecord fragile) := by
  unfold read
  refine FieldsBreakAt.record (.of_eq (
    (StateRecord.readParts_breakAt.map _)
      |>.seq (.optional optionalString_breaksAt)
      |>.seq (.optional optionalString_breaksAt)
      |>.seq (.optional states_breaksAt)
      |>.seq (.optional any_breaksAt)
      |>.seqLeft .onlyNames) ?_)
  simp [field_nowhere, fragile]

/-- A graph that is read is still read with a placeholder at a position inside it, exactly when the
position is not a fragile one. -/
theorem read_replaced_iff {graph new changed : Value} {position : List Branch}
    (hgraph : (StateGraph.read graph).accepted = true) (hinside : position ≠ [])
    (hnew : new.isPlaceholder = true) (hreplaced : graph.replaced position new = some changed) :
    (StateGraph.read changed).accepted = true ↔ inMap fragile position graph = false := by
  have hbreaks : (StateGraph.read changed).accepted = !inRecord fragile position graph :=
    read_breaksAt hgraph hnew hreplaced
  cases position with
  | nil => exact absurd rfl hinside
  | cons branch rest =>
      have hfields : inRecord fragile (branch :: rest) graph =
          inMap fragile (branch :: rest) graph := rfl
      rw [hbreaks, hfields, Bool.not_eq_true']

/-- A graph of one edge, with one step on it. -/
def paying : Value :=
  .map [(.name "on", .map [(.name "PAY", .map [
    (.name "target", .text "paid"),
    (.name "actionDetails", .map [(.name "steps", .list [
      .map [(.name "method", .text "pay"), (.name "await", .bool true)]])])])])]

def payingAction : List Branch :=
  [.key (.name "on"), .key (.name "PAY"), .key (.name "actionDetails")]

def payingStep : List Branch :=
  payingAction ++ [.key (.name "steps"), .item 0]

/-- The method of a step may be computed. -/
theorem paying_computedMethod :
    ∃ changed,
      paying.replaced (payingStep ++ [.key (.name "method")]) (.computed .call "method()") =
          some changed ∧
        (StateGraph.read changed).accepted = true := by
  have hgraph : (StateGraph.read paying).accepted = true := by decide
  have hinside : payingStep ++ [.key (.name "method")] ≠ [] := by decide
  have hnew : (Value.computed .call "method()").isPlaceholder = true := by decide
  exact ⟨_, rfl, (read_replaced_iff hgraph hinside hnew rfl).mpr (by decide)⟩

/-- What is done on the edge may not. -/
theorem not_read_computedAction :
    ¬ ∀ graph new changed position, (StateGraph.read graph).accepted = true → position ≠ [] →
      new.isPlaceholder = true → graph.replaced position new = some changed →
        (StateGraph.read changed).accepted = true := by
  intro hall
  have haction := hall paying (.computed .call "details()") _ payingAction (by decide) (by decide)
    (by decide) rfl
  exact absurd haction (by decide)

end StateGraph

end ScreenFlow
