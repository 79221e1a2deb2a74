import ScreenFlow.Entry.Delta
import Mathlib.Data.List.Basic
import Mathlib.Data.List.Nodup

/-!
The fields that entering a state changes.  Each name stands once, the status first and the others in
the order in which the assignment first uses them, and a field has the value of the first key of its
name.
-/

namespace ScreenFlow.Entry

/-! What an entry assigns. -/

mutual
/-- The actions of an entry in their order, from lists in lists too. -/
def actions : Value → List Entries
  | .list items => actionsOf items
  | .tuple items => actionsOf items
  | .map entries => [entries]
  | _ => []

def actionsOf : List Value → List Entries
  | [] => []
  | item :: items => actions item ++ actionsOf items
end

/-- What the first action that has a mapping assigns. -/
def assigned (entry : Value) : Entries :=
  ((actions entry).findSome? ofMap).getD []

mutual
theorem findSome?_actions (entry : Value) : (actions entry).findSome? ofMap = assignment? entry := by
  cases entry with
  | list items => exact findSome?_actionsOf items
  | tuple items => exact findSome?_actionsOf items
  | map entries => exact List.findSome?_singleton
  | _ => rfl

theorem findSome?_actionsOf (items : List Value) :
    (actionsOf items).findSome? ofMap = firstAssignment? items := by
  cases items with
  | nil => rfl
  | cons item items =>
      rw [actionsOf, List.findSome?_append, findSome?_actions item, findSome?_actionsOf items,
        firstAssignment?]
      cases assignment? item <;> rfl
end

theorem getD_assignment? (entry : Value) : (assignment? entry).getD [] = assigned entry := by
  rw [assigned, findSome?_actions]

/-- The names that the keys of an entry stand for. -/
def fieldNames (entry : Value) (entity : String) : List String :=
  (assigned entry).map fun field => fieldName field.1.text entity

/-- The value of the first key that stands for a name. -/
def firstValue? (entry : Value) (entity name : String) : Option Value :=
  ((assigned entry).find? fun field => fieldName field.1.text entity == name).map Prod.snd

theorem firstValue?_eq_none_iff {entry : Value} {entity name : String} :
    firstValue? entry entity name = none ↔ name ∉ fieldNames entry entity := by
  simp [firstValue?, fieldNames]

theorem names_rawFields (entry : Value) (targetStatus entity : String) :
    (rawFields entry targetStatus entity).map DeltaField.name = fieldNames entry entity := by
  rw [rawFields, getD_assignment?, List.map_map]
  rfl

theorem find?_rawFields (entry : Value) (targetStatus entity name : String) :
    (rawFields entry targetStatus entity).find? (fun field => field.name == name) =
      (firstValue? entry entity name).map fun value =>
        ⟨name, deltaValue name value targetStatus⟩ := by
  rw [rawFields, getD_assignment?, List.find?_map, firstValue?, Option.map_map]
  refine Option.map_congr fun field hfound => ?_
  have hname : fieldName field.1.text entity = name := by simpa using List.find?_some hfound
  simp [hname]

/-! The first field of each name. -/

theorem firstOfName_cons (seen : List String) (field : DeltaField) (rest : List DeltaField) :
    firstOfName seen (field :: rest) =
      if field.name ∈ seen then firstOfName seen rest
      else field :: firstOfName (field.name :: seen) rest := by
  simp [firstOfName]

theorem mem_names_firstOfName {seen : List String} {fields : List DeltaField} {name : String} :
    name ∈ (firstOfName seen fields).map DeltaField.name ↔
      name ∉ seen ∧ name ∈ fields.map DeltaField.name := by
  induction fields generalizing seen with
  | nil => simp [firstOfName]
  | cons field rest ih =>
      rw [firstOfName_cons]
      split
      · next hseen =>
          rw [ih, List.map_cons, List.mem_cons]
          refine and_congr_right fun hname => (or_iff_right ?_).symm
          rintro rfl
          exact hname hseen
      · next hseen =>
          rw [List.map_cons, List.map_cons, List.mem_cons, List.mem_cons, ih, List.mem_cons]
          by_cases heq : name = field.name
          · simp [heq, hseen]
          · simp [heq]

theorem find?_firstOfName {seen : List String} {name : String} (hname : name ∉ seen)
    (fields : List DeltaField) :
    (firstOfName seen fields).find? (fun field => field.name == name) =
      fields.find? fun field => field.name == name := by
  induction fields generalizing seen with
  | nil => rfl
  | cons field rest ih =>
      rw [firstOfName_cons]
      by_cases heq : field.name = name
      · rw [if_neg (heq ▸ hname)]
        simp [heq]
      · have hskip (others : List DeltaField) :
            (field :: others).find? (fun field => field.name == name) =
              others.find? fun field => field.name == name :=
          List.find?_cons_of_neg (by simpa using heq)
        rw [hskip]
        split
        · exact ih hname
        · rw [hskip]
          exact ih (List.not_mem_cons_of_ne_of_not_mem (Ne.symm heq) hname)

/-- A list of names goes through the names in the order in which they first come. -/
def InOrderOf (names : List String) (chosen : List String) : Prop :=
  chosen.Pairwise fun first second => names.idxOf first < names.idxOf second

theorem InOrderOf.nodup {names chosen : List String} (horder : InOrderOf names chosen) :
    chosen.Nodup :=
  horder.imp fun hlt heq => absurd (heq ▸ hlt) (Nat.lt_irrefl _)

/-- A name in front that is none of those chosen does not change their order. -/
theorem InOrderOf.cons {names chosen : List String} (horder : InOrderOf names chosen)
    {name : String} (hname : name ∉ chosen) : InOrderOf (name :: names) chosen := by
  refine horder.imp_of_mem fun {first second} hfirst hsecond hlt => ?_
  have hne {other : String} (hother : other ∈ chosen) : name ≠ other := by
    rintro rfl
    exact hname hother
  rw [List.idxOf_cons_ne _ (hne hfirst), List.idxOf_cons_ne _ (hne hsecond)]
  exact Nat.succ_lt_succ hlt

theorem names_firstOfName_inOrder (seen : List String) (fields : List DeltaField) :
    InOrderOf (fields.map DeltaField.name) ((firstOfName seen fields).map DeltaField.name) := by
  induction fields generalizing seen with
  | nil => exact List.Pairwise.nil
  | cons field rest ih =>
      rw [firstOfName_cons, List.map_cons]
      split
      · next hseen => exact (ih seen).cons fun hmem => (mem_names_firstOfName.mp hmem).1 hseen
      · have hfresh : field.name ∉
            (firstOfName (field.name :: seen) rest).map DeltaField.name :=
          fun hmem => (mem_names_firstOfName.mp hmem).1 List.mem_cons_self
        refine List.pairwise_cons.mpr ⟨fun other hother => ?_, (ih _).cons hfresh⟩
        rw [List.idxOf_cons_self, List.idxOf_cons_ne]
        · exact Nat.succ_pos _
        · rintro rfl
          exact hfresh hother

/-! The status in front. -/

theorem filter_name_eq_toList_find? {fields : List DeltaField}
    (hnodup : (fields.map DeltaField.name).Nodup) (name : String) :
    fields.filter (fun field => field.name == name) =
      (fields.find? fun field => field.name == name).toList := by
  induction fields with
  | nil => rfl
  | cons field rest ih =>
      obtain ⟨hfresh, hrest⟩ := List.nodup_cons.mp hnodup
      by_cases heq : field.name = name
      · have hnone : rest.filter (fun other => other.name == name) = [] := by
          refine List.filter_eq_nil_iff.mpr fun other hother hname => hfresh ?_
          rw [heq, ← beq_iff_eq.mp hname]
          exact List.mem_map_of_mem hother
        simp [heq, hnone]
      · simp [heq, ih hrest]

/-- The field of a name: what the first key of the name makes of it, or the status that is entered. -/
def fieldOf (entry : Value) (targetStatus entity name : String) : DeltaField :=
  match firstValue? entry entity name with
  | some value => ⟨name, deltaValue name value targetStatus⟩
  | none => ⟨name, Script.quote targetStatus⟩

theorem name_fieldOf (entry : Value) (targetStatus entity name : String) :
    (fieldOf entry targetStatus entity name).name = name := by
  unfold fieldOf
  split <;> rfl

/-- The fields but for the status, each name once. -/
def otherFields (entry : Value) (targetStatus entity : String) : List DeltaField :=
  (firstOfName [] (rawFields entry targetStatus entity)).filter fun field => !isStatus field

theorem names_firstOfName_rawFields (entry : Value) (targetStatus entity : String) :
    InOrderOf (fieldNames entry entity)
      ((firstOfName [] (rawFields entry targetStatus entity)).map DeltaField.name) := by
  rw [← names_rawFields entry targetStatus entity]
  exact names_firstOfName_inOrder [] _

theorem deltaFields_eq_cons (entry : Value) (targetStatus entity : String) :
    deltaFields entry targetStatus entity =
      fieldOf entry targetStatus entity "status" :: otherFields entry targetStatus entity := by
  have hstatus : (firstOfName [] (rawFields entry targetStatus entity)).filter isStatus =
      ((firstValue? entry entity "status").map fun value =>
        ⟨"status", deltaValue "status" value targetStatus⟩).toList := by
    rw [← find?_rawFields, ← find?_firstOfName List.not_mem_nil,
      ← filter_name_eq_toList_find? (names_firstOfName_rawFields entry targetStatus entity).nodup]
    rfl
  unfold deltaFields
  dsimp only
  rw [hstatus, fieldOf]
  cases firstValue? entry entity "status" <;> rfl

theorem eq_fieldOf_of_mem_otherFields {entry : Value} {targetStatus entity : String}
    {field : DeltaField} (hmem : field ∈ otherFields entry targetStatus entity) :
    field = fieldOf entry targetStatus entity field.name := by
  have hnames := (names_firstOfName_rawFields entry targetStatus entity).nodup
  have hfound : (firstOfName [] (rawFields entry targetStatus entity)).find?
      (fun other => other.name == field.name) = some field := by
    rw [← Option.mem_toList, ← filter_name_eq_toList_find? hnames, List.mem_filter]
    exact ⟨List.mem_of_mem_filter hmem, beq_self_eq_true _⟩
  rw [find?_firstOfName List.not_mem_nil, find?_rawFields, Option.map_eq_some_iff] at hfound
  obtain ⟨value, hvalue, heq⟩ := hfound
  rw [fieldOf, hvalue]
  exact heq.symm

theorem names_otherFields (entry : Value) (targetStatus entity : String) :
    (otherFields entry targetStatus entity).map DeltaField.name =
      ((firstOfName [] (rawFields entry targetStatus entity)).map DeltaField.name).filter
        fun name => name != "status" := by
  rw [otherFields, List.filter_map]
  rfl

/-- Of an entry come the status and then the other names that its keys stand for, in the order in which
they first do, each once.  A field has the value of the first key of its name; without such a key the
status is the one that is entered. -/
theorem deltaFields_first_of_each_name (entry : Value) (targetStatus entity : String) :
    ((deltaFields entry targetStatus entity).map DeltaField.name).Nodup ∧
      (∃ others, (deltaFields entry targetStatus entity).map DeltaField.name = "status" :: others ∧
        InOrderOf (fieldNames entry entity) others ∧
        ∀ name, name ∈ others ↔ name ≠ "status" ∧ name ∈ fieldNames entry entity) ∧
      ∀ field ∈ deltaFields entry targetStatus entity,
        match firstValue? entry entity field.name with
        | some value => field.value = deltaValue field.name value targetStatus
        | none => field = ⟨"status", Script.quote targetStatus⟩ := by
  have horder : InOrderOf (fieldNames entry entity)
      ((otherFields entry targetStatus entity).map DeltaField.name) := by
    rw [names_otherFields]
    exact (names_firstOfName_rawFields entry targetStatus entity).filter _
  have hmem (name : String) : name ∈ (otherFields entry targetStatus entity).map DeltaField.name ↔
      name ≠ "status" ∧ name ∈ fieldNames entry entity := by
    rw [names_otherFields, List.mem_filter, mem_names_firstOfName, names_rawFields, and_comm]
    simp
  have hnames : (deltaFields entry targetStatus entity).map DeltaField.name =
      "status" :: (otherFields entry targetStatus entity).map DeltaField.name := by
    rw [deltaFields_eq_cons, List.map_cons, name_fieldOf]
  refine ⟨?_, ⟨_, hnames, horder, hmem⟩, ?_⟩
  · rw [hnames, List.nodup_cons]
    exact ⟨fun hstatus => ((hmem _).mp hstatus).1 rfl, horder.nodup⟩
  · intro field hfield
    have heq : field = fieldOf entry targetStatus entity field.name := by
      rw [deltaFields_eq_cons] at hfield
      rcases List.mem_cons.mp hfield with rfl | hother
      · rw [name_fieldOf]
      · exact eq_fieldOf_of_mem_otherFields hother
    cases hvalue : firstValue? entry entity field.name with
    | some value =>
        rw [fieldOf, hvalue] at heq
        exact congrArg DeltaField.value heq
    | none =>
        rw [fieldOf, hvalue] at heq
        have hstatus : field.name = "status" := by
          by_contra hother
          have hname := List.mem_map_of_mem (f := DeltaField.name) hfield
          rw [hnames, List.mem_cons, hmem] at hname
          exact firstValue?_eq_none_iff.mp hvalue (hname.resolve_left hother).2
        rw [heq, hstatus]

end ScreenFlow.Entry
