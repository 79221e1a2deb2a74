import ScreenFlow.Proofs.Schema.Accepted

/-!
Values changed at one position.  A test of values may fail a value it passed before when a
placeholder takes the place of one of its parts; where that happens is told for each combinator of
the schema from where it happens for its parts.
-/

namespace ScreenFlow

/-- The way from a container to one of the values in it. -/
inductive Branch where
  | key (key : Key)
  | item (number : Nat)
  deriving DecidableEq, Repr

namespace Entries

theorem get?_eq_lookup (entries : Entries) (name : String) :
    entries.get? name = entries.lookup (.name name) := by
  unfold get?
  induction entries with
  | nil => rfl
  | cons entry rest ih =>
      rw [List.find?_cons, List.lookup_cons, BEq.comm]
      cases Key.name name == entry.1 with
      | true => rfl
      | false => exact ih

theorem lookup_put {entries : Entries} {key : Key} {child : Value} (changed : Value)
    (hchild : entries.lookup key = some child) (wanted : Key) :
    (entries.put key changed).lookup wanted =
      if wanted = key then some changed else entries.lookup wanted := by
  induction entries with
  | nil => cases hchild
  | cons entry rest ih =>
      obtain ⟨k, v⟩ := entry
      unfold put
      by_cases hkey : k = key
      · subst hkey
        rw [if_pos rfl, List.lookup_cons, List.lookup_cons]
        cases hwanted : wanted == k with
        | true => rw [if_pos (eq_of_beq hwanted)]
        | false => rw [if_neg (ne_of_beq_false hwanted)]
      · have hrest : rest.lookup key = some child := by
          rwa [List.lookup_cons, beq_false_of_ne (Ne.symm hkey)] at hchild
        rw [if_neg hkey, List.lookup_cons, ih hrest, List.lookup_cons]
        cases hwanted : wanted == k with
        | true => exact (if_neg (eq_of_beq hwanted ▸ hkey)).symm
        | false => rfl

/-- Of all entries only the one that is written is tested anew. -/
theorem all_put {entries : Entries} {key : Key} {child : Value} (changed : Value)
    (accepts : Key × Value → Bool) (hchild : entries.lookup key = some child)
    (haccepts : entries.all accepts = true) :
    accepts (key, child) = true ∧
      (entries.put key changed).all accepts = accepts (key, changed) := by
  induction entries with
  | nil => cases hchild
  | cons entry rest ih =>
      obtain ⟨k, v⟩ := entry
      rw [List.all_cons, Bool.and_eq_true] at haccepts
      obtain ⟨hfirst, hrest⟩ := haccepts
      unfold put
      rw [List.lookup_cons] at hchild
      by_cases hkey : k = key
      · subst hkey
        rw [beq_self_eq_true] at hchild
        cases hchild
        rw [if_pos rfl, List.all_cons, hrest, Bool.and_true]
        exact ⟨hfirst, rfl⟩
      · rw [beq_false_of_ne (Ne.symm hkey)] at hchild
        rw [if_neg hkey, List.all_cons, hfirst, Bool.true_and]
        exact ih hchild hrest

end Entries

theorem all_set {items : List Value} {number : Nat} {child : Value} (changed : Value)
    (accepts : Value → Bool) (hchild : items[number]? = some child)
    (haccepts : items.all accepts = true) :
    accepts child = true ∧ (items.set number changed).all accepts = accepts changed := by
  induction items generalizing number with
  | nil => cases hchild
  | cons item rest ih =>
      rw [List.all_cons, Bool.and_eq_true] at haccepts
      obtain ⟨hfirst, hrest⟩ := haccepts
      cases number with
      | zero =>
          cases hchild
          rw [List.set_cons_zero, List.all_cons, hrest, Bool.and_true]
          exact ⟨hfirst, rfl⟩
      | succ number =>
          rw [List.set_cons_succ, List.all_cons, hfirst, Bool.true_and]
          exact ih hchild hrest

namespace Value

def child? (value : Value) : Branch → Option Value
  | .key key => value.entries?.bind (·.lookup key)
  | .item number => value.items?.bind (·[number]?)

def withChild (value : Value) (branch : Branch) (child : Value) : Value :=
  match value, branch with
  | .map entries, .key key => .map (Entries.put entries key child)
  | .list items, .item number => .list (items.set number child)
  | .tuple items, .item number => .tuple (items.set number child)
  | value, _ => value

/-- The value with a new one at a position; none if it has no such position. -/
def replaced (value : Value) (position : List Branch) (new : Value) : Option Value :=
  match position with
  | [] => some new
  | branch :: rest =>
      (value.child? branch).bind fun child =>
        (child.replaced rest new).map (value.withChild branch)

theorem replaced_cons_eq_some {value new changed : Value} {branch : Branch}
    {rest : List Branch} :
    value.replaced (branch :: rest) new = some changed ↔
      ∃ child, value.child? branch = some child ∧
        ∃ inner, child.replaced rest new = some inner ∧ value.withChild branch inner = changed := by
  simp only [replaced, Option.bind_eq_some_iff, Option.map_eq_some_iff]

theorem replaced_of_childless {value new changed : Value} {position : List Branch}
    (hentries : value.entries? = none) (hitems : value.items? = none)
    (hreplaced : value.replaced position new = some changed) :
    position = [] ∧ changed = new := by
  cases position with
  | nil =>
      cases hreplaced
      exact ⟨rfl, rfl⟩
  | cons branch rest =>
      obtain ⟨child, hchild, -⟩ := replaced_cons_eq_some.mp hreplaced
      cases branch with
      | key key => simp [child?, hentries] at hchild
      | item number => simp [child?, hitems] at hchild

theorem isMap_withChild (value : Value) (branch : Branch) (child : Value) :
    (value.withChild branch child).isMap = value.isMap := by
  cases value <;> cases branch <;> rfl

theorem entries?_of_isPlaceholder {value : Value} (hplaceholder : value.isPlaceholder = true) :
    value.entries? = none := by
  cases value <;> first | rfl | cases hplaceholder

theorem items?_of_isPlaceholder {value : Value} (hplaceholder : value.isPlaceholder = true) :
    value.items? = none := by
  cases value <;> first | rfl | cases hplaceholder

theorem isMap_of_isPlaceholder {value : Value} (hplaceholder : value.isPlaceholder = true) :
    value.isMap = false := by
  cases value <;> first | rfl | cases hplaceholder

theorem isString_of_isPlaceholder {value : Value} (hplaceholder : value.isPlaceholder = true) :
    value.isString = true := by
  cases value <;> first | rfl | cases hplaceholder

theorem listOrEmpty_of_isPlaceholder {value : Value} (hplaceholder : value.isPlaceholder = true) :
    value.listOrEmpty = [] := by
  cases value with
  | text word => exact if_pos hplaceholder
  | computed kind source => exact if_pos hplaceholder
  | _ => cases hplaceholder

theorem listOrEmpty_of_items? {value : Value} {items : List Value}
    (hitems : value.items? = some items) : value.listOrEmpty = items := by
  cases value <;> cases hitems <;> rfl

theorem replaced_items {value new changed : Value} {items : List Value} {branch : Branch}
    {rest : List Branch} (hitems : value.items? = some items)
    (hreplaced : value.replaced (branch :: rest) new = some changed) :
    ∃ number child inner, branch = .item number ∧ items[number]? = some child ∧
      child.replaced rest new = some inner ∧ changed.items? = some (items.set number inner) := by
  obtain ⟨child, hchild, inner, hinner, rfl⟩ := replaced_cons_eq_some.mp hreplaced
  cases branch with
  | key key => cases value <;> cases hitems <;> cases hchild
  | item number =>
      rw [child?, hitems] at hchild
      refine ⟨number, child, inner, rfl, hchild, hinner, ?_⟩
      cases value <;> cases hitems <;> rfl

theorem ne_null_of_replaced {value new changed : Value} {position : List Branch}
    (hnew : new.isPlaceholder = true) (hreplaced : value.replaced position new = some changed) :
    changed ≠ .null := by
  rintro rfl
  cases position with
  | nil =>
      cases hreplaced
      cases hnew
  | cons branch rest =>
      obtain ⟨child, hchild, inner, -, hnull⟩ := replaced_cons_eq_some.mp hreplaced
      cases value <;> cases branch <;> first | cases hchild | cases hnull

theorem replaced_map {entries : Entries} {new changed : Value} {branch : Branch}
    {rest : List Branch}
    (hreplaced : (Value.map entries).replaced (branch :: rest) new = some changed) :
    ∃ key child inner, branch = .key key ∧ entries.lookup key = some child ∧
      child.replaced rest new = some inner ∧ changed = .map (Entries.put entries key inner) := by
  obtain ⟨child, hchild, inner, hinner, rfl⟩ := replaced_cons_eq_some.mp hreplaced
  cases branch with
  | key key => exact ⟨key, child, inner, rfl, hchild, hinner, rfl⟩
  | item number => cases hchild

end Value

namespace Schema

/-- What is given stands under one of the two names. -/
theorem of_given? {entries : Entries} {name : Name} {given : String × Value}
    (hgiven : given? entries name = some given) :
    (given.1 = name.editor ∨ given.1 = name.long) ∧
      entries.lookup (.name given.1) = some given.2 := by
  unfold given? at hgiven
  rw [Entries.get?_eq_lookup, Entries.get?_eq_lookup] at hgiven
  cases heditor : entries.lookup (.name name.editor) with
  | some value =>
      rw [heditor] at hgiven
      cases hgiven
      exact ⟨.inl rfl, heditor⟩
  | none =>
      rw [heditor] at hgiven
      obtain ⟨value, hlong, rfl⟩ := Option.map_eq_some_iff.mp hgiven
      exact ⟨.inr rfl, hlong⟩

theorem given?_put {entries : Entries} {key : Key} {child : Value} (changed : Value)
    (hchild : entries.lookup key = some child) (name : Name) :
    given? (entries.put key changed) name =
      (given? entries name).map fun given =>
        (given.1, if key = .name given.1 then changed else given.2) := by
  have hput := Entries.lookup_put changed hchild
  unfold given?
  simp only [Entries.get?_eq_lookup, hput]
  by_cases heditor : Key.name name.editor = key
  · subst heditor
    rw [if_pos rfl, hchild]
    simp
  · rw [if_neg heditor]
    cases entries.lookup (.name name.editor) with
    | some value => simp [Ne.symm heditor]
    | none =>
        by_cases hlong : Key.name name.long = key
        · subst hlong
          rw [if_pos rfl, hchild]
          simp
        · rw [if_neg hlong]
          cases entries.lookup (.name name.long) with
          | some value => simp [Ne.symm hlong]
          | none => rfl

end Schema

/-! Tests that fail at some positions. -/

/-- A set of positions in each value. -/
abbrev Positions := List Branch → Value → Bool

namespace Positions

def nowhere : Positions := fun _ _ => false

def whole : Positions := fun position _ => position.isEmpty

def either (first second : Positions) : Positions :=
  fun position value => first position value || second position value

/-- In the items of a sequence, or in a value that stands for its only item. -/
def inItems (inner : Positions) : Positions
  | [], _ => false
  | branch :: rest, value =>
      match value.items? with
      | some _ => (value.child? branch).any (inner rest)
      | none => inner (branch :: rest) value

/-- In the entries of a map, as their maps and keys allow. -/
def inMap (fields : Entries → Key → Positions) : Positions
  | .key key :: rest, .map entries => (entries.lookup key).any (fields entries key rest)
  | _, _ => false

theorem inMap_child (fields : Entries → Key → Positions) {entries : Entries} {key : Key}
    {child : Value} (hchild : entries.lookup key = some child) (rest : List Branch) :
    inMap fields (.key key :: rest) (.map entries) = fields entries key rest child :=
  congrArg (Option.any (fields entries key rest)) hchild

def inEntries (inner : Positions) : Positions :=
  inMap fun _ _ => inner

def inRecord (fields : Entries → Key → Positions) : Positions :=
  either whole (inMap fields)

/-- In one field, under the name that it is given by. -/
def field (name : Schema.Name) (inner : Positions) (entries : Entries) (key : Key) : Positions :=
  fun rest child =>
    (Schema.given? entries name).any fun given => key == .name given.1 && inner rest child

theorem inItems_nowhere : inItems nowhere = nowhere := by
  funext position value
  cases position with
  | nil => rfl
  | cons branch rest =>
      dsimp only [inItems]
      cases value.items? with
      | none => rfl
      | some items => cases value.child? branch <;> rfl

theorem inMap_nowhere : inMap (fun _ _ => nowhere) = nowhere := by
  funext position value
  unfold inMap
  split
  · next key rest entries => cases entries.lookup key <;> rfl
  · rfl

theorem field_nowhere (name : Schema.Name) : field name nowhere = fun _ _ => nowhere := by
  funext entries key rest child
  unfold field nowhere
  simp

@[simp] theorem either_nowhere (positions : Positions) : either positions nowhere = positions := by
  funext position value
  exact Bool.or_false _

@[simp] theorem nowhere_either (positions : Positions) : either nowhere positions = positions :=
  rfl

end Positions

open Positions

/-- Of the values that a test accepts, a placeholder makes one unacceptable exactly at the fragile
positions. -/
def BreaksAt (accepts : Value → Bool) (fragile : Positions) : Prop :=
  ∀ ⦃value new changed : Value⦄ ⦃position : List Branch⦄, accepts value = true →
    new.isPlaceholder = true → value.replaced position new = some changed →
      accepts changed = !fragile position value

/-- The same for the fields of a record. -/
def FieldsBreakAt {α : Type} (read : Entries → Reading α)
    (fragile : Entries → Key → Positions) : Prop :=
  ∀ ⦃entries : Entries⦄ ⦃key : Key⦄ ⦃child new inner : Value⦄ ⦃rest : List Branch⦄,
    (read entries).accepted = true → new.isPlaceholder = true →
      entries.lookup key = some child → child.replaced rest new = some inner →
        (read (entries.put key inner)).accepted = !fragile entries key rest child

namespace BreaksAt

variable {accepts : Value → Bool} {fragile : Positions}

theorem const (accepted : Bool) : BreaksAt (fun _ => accepted) nowhere :=
  fun _ _ _ _ haccepted _ _ => haccepted

theorem of_eq {test : Value → Bool} {positions : Positions} (hbreaks : BreaksAt accepts fragile)
    (htest : ∀ value, test value = accepts value)
    (hpositions : ∀ position value, positions position value = fragile position value) :
    BreaksAt test positions := by
  intro value new changed position haccepts hnew hreplaced
  rw [htest, hpositions]
  exact hbreaks ((htest value).symm.trans haccepts) hnew hreplaced

theorem of_childless
    (hchildless : ∀ value, accepts value = true → value.entries? = none ∧ value.items? = none)
    (hnew : ∀ new value, new.isPlaceholder = true → accepts new = !fragile [] value) :
    BreaksAt accepts fragile := by
  intro value new changed position haccepts hplaceholder hreplaced
  obtain ⟨hentries, hitems⟩ := hchildless value haccepts
  obtain ⟨rfl, rfl⟩ := Value.replaced_of_childless hentries hitems hreplaced
  exact hnew changed value hplaceholder

theorem and_left (hbreaks : BreaksAt accepts fragile) (condition : Bool) :
    BreaksAt (fun value => condition && accepts value) fragile := by
  cases condition with
  | true => exact hbreaks
  | false => exact fun _ _ _ _ haccepts => absurd haccepts Bool.false_ne_true

theorem items (hbreaks : BreaksAt accepts fragile) :
    BreaksAt (fun value => value.listOrEmpty.all accepts) (inItems fragile) := by
  intro value new changed position haccepts hnew hreplaced
  dsimp only at haccepts ⊢
  cases position with
  | nil =>
      -- In place of a sequence a placeholder counts as an empty one.
      cases hreplaced
      rw [Value.listOrEmpty_of_isPlaceholder hnew]
      rfl
  | cons branch rest =>
      dsimp only [inItems]
      cases hitems : value.items? with
      | some items =>
          obtain ⟨number, child, inner, rfl, hchild, hinner, hchanged⟩ :=
            Value.replaced_items hitems hreplaced
          rw [Value.listOrEmpty_of_items? hitems] at haccepts
          obtain ⟨hitem, hset⟩ := all_set inner accepts hchild haccepts
          rw [Value.listOrEmpty_of_items? hchanged, hset, Value.child?, hitems]
          dsimp only [Option.bind_some]
          rw [hchild]
          exact hbreaks hitem hnew hinner
      | none =>
          cases value with
          | map entries =>
              -- A map is its own only item, before and after.
              obtain ⟨key, child, inner, rfl, -, -, rfl⟩ := Value.replaced_map hreplaced
              have honly : ∀ map : Entries,
                  (Value.map map).listOrEmpty.all accepts = accepts (.map map) :=
                fun map => Bool.and_true _
              rw [honly] at haccepts ⊢
              exact hbreaks haccepts hnew hreplaced
          | list items => cases hitems
          | tuple items => cases hitems
          | _ => cases (Value.replaced_of_childless rfl rfl hreplaced).1

theorem entries {test : Key → Value → Bool} (hbreaks : ∀ key, BreaksAt (test key) fragile) :
    BreaksAt
      (fun value => value.entries?.all fun entries => entries.all fun entry =>
        test entry.1 entry.2)
      (inEntries fragile) := by
  intro value new changed position haccepts hnew hreplaced
  dsimp only at haccepts ⊢
  cases position with
  | nil =>
      cases hreplaced
      rw [Value.entries?_of_isPlaceholder hnew]
      rfl
  | cons branch rest =>
      cases value with
      | map entries =>
          obtain ⟨key, child, inner, rfl, hchild, hinner, rfl⟩ := Value.replaced_map hreplaced
          obtain ⟨hentry, hentries⟩ := Entries.all_put inner (fun entry => test entry.1 entry.2)
            hchild haccepts
          rw [inEntries, inMap_child _ hchild]
          exact hentries.trans (hbreaks key hentry hnew hinner)
      | _ =>
          obtain ⟨child, -, inner, -, rfl⟩ := Value.replaced_cons_eq_some.mp hreplaced
          cases branch <;> rfl

theorem kept {keep : Value → Bool} (hbreaks : BreaksAt accepts fragile)
    (hkeep : ∀ value new changed position, new.isPlaceholder = true →
      value.replaced position new = some changed → keep changed = true → keep value = true)
    (hlost : ∀ value new changed position, new.isPlaceholder = true →
      value.replaced position new = some changed → keep value = true → keep changed = false →
        fragile position value = false) :
    BreaksAt (fun value => !keep value || accepts value)
      (fun position value => keep value && fragile position value) := by
  intro value new changed position haccepts hnew hreplaced
  dsimp only at haccepts ⊢
  have hkeep := hkeep value new changed position hnew hreplaced
  have hlost := hlost value new changed position hnew hreplaced
  cases hbefore : keep value with
  | false =>
      -- What was not tested is not tested now.
      have hafter : keep changed = false := by
        rw [← Bool.not_eq_true]
        intro hafter
        rw [hkeep hafter] at hbefore
        cases hbefore
      rw [hafter]
      rfl
  | true =>
      rw [hbefore] at haccepts
      cases hafter : keep changed with
      | false =>
          rw [hlost hbefore hafter]
          rfl
      | true => exact hbreaks haccepts hnew hreplaced

/-- Where only maps are tested, a record may be given up as a whole. -/
theorem mapOnly {fields : Entries → Key → Positions} (hbreaks : BreaksAt accepts (inRecord fields)) :
    BreaksAt (fun value => !value.isMap || accepts value) (inMap fields) := by
  intro value new changed position haccepts hnew hreplaced
  dsimp only at haccepts ⊢
  cases position with
  | nil =>
      cases hreplaced
      rw [Value.isMap_of_isPlaceholder hnew]
      rfl
  | cons branch rest =>
      have hchanged : changed.isMap = value.isMap := by
        obtain ⟨child, -, inner, -, rfl⟩ := Value.replaced_cons_eq_some.mp hreplaced
        exact Value.isMap_withChild value branch inner
      rw [hchanged]
      cases value with
      | map entries => exact hbreaks haccepts hnew hreplaced
      | _ => cases branch <;> rfl

end BreaksAt

namespace FieldsBreakAt

variable {α β γ : Type} {fragile positions : Entries → Key → Positions}

theorem of_eq {read : Entries → Reading α} (hbreaks : FieldsBreakAt read fragile)
    (hpositions : ∀ entries key rest child,
      positions entries key rest child = fragile entries key rest child) :
    FieldsBreakAt read positions := by
  intro entries key child new inner rest haccepted hnew hchild hreplaced
  rw [hpositions]
  exact hbreaks haccepted hnew hchild hreplaced

theorem map {read : Entries → Reading α} (f : α → β) (hbreaks : FieldsBreakAt read fragile) :
    FieldsBreakAt (fun entries => f <$> read entries) fragile := by
  intro entries key child new inner rest haccepted hnew hchild hreplaced
  rw [Reading.accepted_functor_map] at haccepted ⊢
  exact hbreaks haccepted hnew hchild hreplaced

theorem both {first : Entries → Reading α} {second : Entries → Reading β}
    {read : Entries → Reading γ} (hfirst : FieldsBreakAt first fragile)
    (hsecond : FieldsBreakAt second positions)
    (hread : ∀ entries, (read entries).accepted =
      ((first entries).accepted && (second entries).accepted)) :
    FieldsBreakAt read fun entries key => either (fragile entries key) (positions entries key) := by
  intro entries key child new inner rest haccepted hnew hchild hreplaced
  rw [hread, Bool.and_eq_true] at haccepted
  rw [hread, hfirst haccepted.1 hnew hchild hreplaced, hsecond haccepted.2 hnew hchild hreplaced]
  exact (Bool.not_or _ _).symm

theorem seq {first : Entries → Reading (α → β)} {second : Entries → Reading α}
    (hfirst : FieldsBreakAt first fragile) (hsecond : FieldsBreakAt second positions) :
    FieldsBreakAt (fun entries => first entries <*> second entries)
      (fun entries key => either (fragile entries key) (positions entries key)) :=
  hfirst.both hsecond fun _ => Reading.accepted_seq _ _

theorem seqLeft {first : Entries → Reading α} {second : Entries → Reading β}
    (hfirst : FieldsBreakAt first fragile) (hsecond : FieldsBreakAt second positions) :
    FieldsBreakAt (fun entries => first entries <* second entries)
      (fun entries key => either (fragile entries key) (positions entries key)) :=
  hfirst.both hsecond fun _ => Reading.accepted_seqLeft _ _

theorem onlyNames : FieldsBreakAt Schema.onlyNames fun _ _ => nowhere := by
  intro entries key child new inner rest haccepted hnew hchild hreplaced
  rw [Schema.accepted_onlyNames] at haccepted ⊢
  obtain ⟨hname, hnames⟩ := Entries.all_put inner (·.1.isName) hchild haccepted
  exact hnames.trans hname

/-- A field that is given breaks where its value does. -/
theorem given {accepts : Value → Bool} {inner : Positions} (hbreaks : BreaksAt accepts inner)
    {entries : Entries} {key : Key} {name : Schema.Name} {used : String × Value}
    {child new changed : Value} {rest : List Branch}
    (hused : Schema.given? entries name = some used) (haccepts : accepts used.2 = true)
    (hnew : new.isPlaceholder = true) (hchild : entries.lookup key = some child)
    (hreplaced : child.replaced rest new = some changed) :
    accepts (if key = .name used.1 then changed else used.2) =
      !(key == .name used.1 && inner rest child) := by
  have hlookup := (Schema.of_given? hused).2
  by_cases hkey : key = .name used.1
  · subst hkey
    cases hlookup.symm.trans hchild
    rw [if_pos rfl, beq_self_eq_true, Bool.true_and]
    exact hbreaks haccepts hnew hreplaced
  · rw [if_neg hkey, beq_false_of_ne hkey, haccepts]
    rfl

theorem optional {read : Value → Reading α} {name : Schema.Name} {default : α} {inner : Positions}
    (hbreaks : BreaksAt (fun value => (read value).accepted) inner) :
    FieldsBreakAt (fun entries => Schema.optional entries name default read) (field name inner) := by
  intro entries key child new changed rest haccepted hnew hchild hreplaced
  dsimp only at haccepted ⊢
  rw [Schema.accepted_optional] at haccepted ⊢
  rw [Schema.given?_put changed hchild]
  unfold field
  cases hused : Schema.given? entries name with
  | none => rfl
  | some used =>
      rw [hused] at haccepted
      exact given hbreaks hused haccepted hnew hchild hreplaced

theorem required {read : Value → Reading α} {name : Schema.Name} {inner : Positions}
    (hbreaks : BreaksAt (fun value => (read value).accepted) inner) :
    FieldsBreakAt (fun entries => Schema.required entries name read) (field name inner) := by
  intro entries key child new changed rest haccepted hnew hchild hreplaced
  dsimp only at haccepted ⊢
  rw [Schema.accepted_required] at haccepted ⊢
  rw [Schema.given?_put changed hchild]
  unfold field
  cases hused : Schema.given? entries name with
  | none =>
      rw [hused] at haccepted
      cases haccepted
  | some used =>
      rw [hused] at haccepted
      exact given hbreaks hused haccepted hnew hchild hreplaced

-- A record cannot be given up as a whole: no placeholder is a map.
theorem record {read : Entries → Reading α} (hbreaks : FieldsBreakAt read fragile) :
    BreaksAt (fun value => (Schema.record read value).accepted) (inRecord fragile) := by
  intro value new changed position haccepted hnew hreplaced
  dsimp only at haccepted ⊢
  rw [Schema.accepted_record] at haccepted ⊢
  cases position with
  | nil =>
      cases hreplaced
      rw [Value.entries?_of_isPlaceholder hnew]
      rfl
  | cons branch rest =>
      cases value with
      | map entries =>
          obtain ⟨key, child, inner, rfl, hchild, hinner, rfl⟩ := Value.replaced_map hreplaced
          have hfield := inMap_child fragile hchild rest
          exact (hbreaks haccepted hnew hchild hinner).trans (congrArg not hfield.symm)
      | _ => cases haccepted

/-- A record that anything but a map may stand for breaks in its fields alone. -/
theorem mapOnly {read : Value → Reading α}
    (hbreaks : FieldsBreakAt (fun entries => read (.map entries)) fragile)
    (hother : ∀ value : Value, value.isMap = false → (read value).accepted = true) :
    BreaksAt (fun value => (read value).accepted) (inMap fragile) := by
  refine hbreaks.record.mapOnly.of_eq (fun value => ?_) fun _ _ => rfl
  cases value with
  | map entries => rfl
  | _ => exact hother _ rfl

end FieldsBreakAt

/-! The readers of the schema. -/

namespace Schema

theorem any_breaksAt : BreaksAt (fun value => (any value).accepted) nowhere :=
  .const true

theorem string_breaksAt : BreaksAt (fun value => (string value).accepted) nowhere := by
  refine .of_childless (fun value haccepted => ?_) (fun new value hnew => ?_)
  · rw [accepted_string] at haccepted
    cases value <;> first | exact ⟨rfl, rfl⟩ | cases haccepted
  · rw [accepted_string]
    exact Value.isString_of_isPlaceholder hnew

theorem optionalString_breaksAt :
    BreaksAt (fun value => (optionalString value).accepted) nowhere := by
  refine .of_childless (fun value haccepted => ?_) (fun new value hnew => ?_)
  · cases value <;> first | exact ⟨rfl, rfl⟩ | cases haccepted
  · cases new <;> first | rfl | cases hnew

theorem stringOrNone_breaksAt :
    BreaksAt (fun value => (stringOrNone value).accepted) nowhere := by
  refine .of_childless (fun value haccepted => ?_) (fun new value hnew => ?_)
  · cases value <;> first | exact ⟨rfl, rfl⟩ | cases haccepted
  · unfold stringOrNone
    rw [if_pos hnew]
    rfl

-- No placeholder is a word for yes or no.
theorem bool_breaksAt : BreaksAt (fun value => (bool value).accepted) whole := by
  refine .of_childless (fun value haccepted => ?_) (fun new value hnew => ?_)
  · cases value <;> first | exact ⟨rfl, rfl⟩ | cases haccepted
  · obtain ⟨kind, hmarker⟩ := Value.isPlaceholder_iff.mp hnew
    have hword : boolOfWord? (lowerText kind.marker) = none := by
      cases kind <;> decide +kernel
    rw [accepted_bool_of_string? hmarker, hword]
    rfl

theorem strings_breaksAt :
    BreaksAt (fun value => (listOrEmpty string value).accepted) nowhere := by
  rw [← inItems_nowhere]
  exact string_breaksAt.items.of_eq (accepted_listOrEmpty string) fun _ _ => rfl

theorem values_breaksAt :
    BreaksAt (fun value => (listOrEmpty any value).accepted) nowhere := by
  rw [← inItems_nowhere]
  exact any_breaksAt.items.of_eq (accepted_listOrEmpty any) fun _ _ => rfl

theorem recordsOnly_breaksAt {read : Value → Reading α} {fields : Entries → Key → Positions}
    (hbreaks : BreaksAt (fun value => (read value).accepted) (inRecord fields)) :
    BreaksAt (fun value => (recordsOnly read value).accepted) (inItems (inMap fields)) :=
  hbreaks.mapOnly.items.of_eq (accepted_recordsOnly read) fun _ _ => rfl

end Schema

end ScreenFlow
