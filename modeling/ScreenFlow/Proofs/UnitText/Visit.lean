import ScreenFlow.Proofs.Entries
import ScreenFlow.UnitText.Rebuild
import Mathlib.Data.Finset.Basic
import Mathlib.Data.List.Nodup

/-!
Values from nodes by a traversal that keeps the names in progress in one set: a name is added when its
definition is entered and discarded when it is left.  The traversal always ends, and leaves the set as
it has found it; so every child of a container is visited with the same names in progress.
-/

namespace ScreenFlow

namespace UnitText

namespace Symbols

def Distinct (symbols : Symbols) : Prop :=
  (symbols.map Prod.fst).Nodup

instance (symbols : Symbols) : Decidable symbols.Distinct :=
  inferInstanceAs (Decidable (List.Nodup _))

/-- The definitions of the names that are not in progress. -/
def without (symbols : Symbols) (busy : Finset String) : Symbols :=
  symbols.filter fun symbol => decide (symbol.1 ∉ busy)

@[simp] theorem without_empty (symbols : Symbols) : symbols.without ∅ = symbols := by
  simp [without]

theorem mem_without {symbols : Symbols} {busy : Finset String} {name : String} {node : Node} :
    (name, node) ∈ symbols.without busy ↔ (name, node) ∈ symbols ∧ name ∉ busy := by
  simp [without]

theorem without_insert (symbols : Symbols) (busy : Finset String) (name : String) :
    (symbols.without busy).without {name} = symbols.without (insert name busy) := by
  simp only [without, List.filter_filter, Finset.mem_insert, Finset.mem_singleton, not_or,
    Bool.decide_and]

theorem Distinct.without {symbols : Symbols} (hdistinct : symbols.Distinct)
    (busy : Finset String) : (symbols.without busy).Distinct :=
  List.Nodup.sublist (List.filter_sublist.map Prod.fst) hdistinct

/-- Entering a definition leaves fewer names that are not in progress. -/
theorem length_without_insert {symbols : Symbols} {busy : Finset String} {name : String}
    {node : Node} (hmem : (name, node) ∈ symbols) (hfree : name ∉ busy) :
    (symbols.without (insert name busy)).length < (symbols.without busy).length := by
  rw [← without_insert]
  exact List.length_filter_lt_length_iff_exists.mpr
    ⟨(name, node), mem_without.mpr ⟨hmem, hfree⟩, by simp⟩

theorem take?_eq_none {symbols : Symbols} {name : String}
    (hunknown : ∀ node, (name, node) ∉ symbols) : symbols.take? name = none := by
  induction symbols with
  | nil => rfl
  | cons entry rest ih =>
      obtain ⟨known, node⟩ := entry
      have hne : known ≠ name := by
        rintro rfl
        exact hunknown node List.mem_cons_self
      have hrest := ih fun node hmem => hunknown node (List.mem_cons_of_mem _ hmem)
      simp only [take?, if_neg hne, hrest, Option.map_none]

/-- What is taken out of distinct definitions is the one of the name. -/
theorem take?_eq_some {symbols : Symbols} (hdistinct : symbols.Distinct) {name : String}
    {definition : Node} (hmem : (name, definition) ∈ symbols) :
    symbols.take? name = some (definition, symbols.without {name}) := by
  induction symbols with
  | nil => cases hmem
  | cons entry rest ih =>
      obtain ⟨known, node⟩ := entry
      obtain ⟨hfresh, hrest⟩ := List.nodup_cons.mp hdistinct
      rcases List.mem_cons.mp hmem with heq | hmem
      · cases heq
        have hkept : Symbols.without rest {name} = rest := by
          refine List.filter_eq_self.mpr fun other hother => ?_
          simp only [Finset.mem_singleton, decide_eq_true_eq]
          rintro rfl
          exact hfresh (List.mem_map.mpr ⟨other, hother, rfl⟩)
        have hothers : Symbols.without ((name, definition) :: rest) {name} = rest := by
          rw [without, List.filter_cons_of_neg (by simp)]
          exact hkept
        simp only [take?, if_true, hothers]
      · have hne : known ≠ name := by
          rintro rfl
          exact hfresh (List.mem_map.mpr ⟨_, hmem, rfl⟩)
        have htake := ih hrest hmem
        simp [take?, hne, htake, without]

end Symbols

namespace Node

@[simp] theorem rebuild_literal (symbols : Symbols) (value : Value) :
    rebuild symbols (literal value) = value := by
  rw [rebuild]

@[simp] theorem rebuild_computed (symbols : Symbols) (kind : Placeholder) (source : String) :
    rebuild symbols (computed kind source) = .computed kind source := by
  rw [rebuild]

theorem rebuildAll_eq_map (symbols : Symbols) (items : List Node) :
    rebuildAll symbols items = items.map (rebuild symbols) := by
  induction items with
  | nil => rw [rebuildAll, List.map_nil]
  | cons item rest ih => rw [rebuildAll, ih, List.map_cons]

theorem rebuildEntries_eq_zip (symbols : Symbols) (entries : List (String × Node)) :
    rebuildEntries symbols entries =
      (entries.map fun entry => Key.name entry.1).zip
        ((entries.map Prod.snd).map (rebuild symbols)) := by
  induction entries with
  | nil => rw [rebuildEntries]; rfl
  | cons entry rest ih =>
      rw [rebuildEntries, ih]
      rfl

@[simp] theorem rebuild_array (symbols : Symbols) (items : List Node) :
    rebuild symbols (array items) = .list (items.map (rebuild symbols)) := by
  rw [rebuild, rebuildAll_eq_map]

theorem rebuild_object (symbols : Symbols) (entries : List (String × Node)) :
    rebuild symbols (object entries) =
      .map (Entries.ofPairs ((entries.map fun entry => Key.name entry.1).zip
        ((entries.map Prod.snd).map (rebuild symbols)))) := by
  rw [rebuild, rebuildEntries_eq_zip]

theorem rebuild_constant {name : String} {value : Value} (hconstant : constant? name = some value)
    (symbols : Symbols) : rebuild symbols (identifier name) = value := by
  rw [rebuild, hconstant]

theorem rebuild_unknown {symbols : Symbols} {name : String} (hconstant : constant? name = none)
    (hunknown : ∀ definition, (name, definition) ∉ symbols) :
    rebuild symbols (identifier name) = .computed .expression name := by
  have htake := Symbols.take?_eq_none hunknown
  rw [rebuild]
  simp only [hconstant]
  split
  · next hsome => rw [htake] at hsome; cases hsome
  · rfl

/-- A name in progress counts as one without a definition. -/
theorem rebuild_defined {symbols : Symbols} (hdistinct : symbols.Distinct) {name : String}
    {definition : Node} (hconstant : constant? name = none) (hmem : (name, definition) ∈ symbols) :
    rebuild symbols (identifier name) = rebuild (symbols.without {name}) definition := by
  have htake := Symbols.take?_eq_some hdistinct hmem
  rw [rebuild]
  simp only [hconstant]
  split
  · next hsome =>
      rw [htake] at hsome
      cases hsome
      rfl
  · next hnone => rw [htake] at hnone; cases hnone

end Node

open Node in
mutual
/-- A visit of a node, from the names in progress before it to those after it. -/
inductive Visits (symbols : Symbols) : Finset String → Node → Value → Finset String → Prop
  | literal (busy : Finset String) (value : Value) :
      Visits symbols busy (.literal value) value busy
  | computed (busy : Finset String) (kind : Placeholder) (source : String) :
      Visits symbols busy (.computed kind source) (.computed kind source) busy
  | array {busy after : Finset String} {items : List Node} {values : List Value}
      (hitems : VisitsAll symbols busy items values after) :
      Visits symbols busy (.array items) (.list values) after
  | object {busy after : Finset String} {entries : List (String × Node)} {values : List Value}
      (hentries : VisitsAll symbols busy (entries.map Prod.snd) values after) :
      Visits symbols busy (.object entries)
        (.map (Entries.ofPairs ((entries.map fun entry => Key.name entry.1).zip values))) after
  | constant (busy : Finset String) {name : String} {value : Value}
      (hconstant : constant? name = some value) :
      Visits symbols busy (.identifier name) value busy
  | unknown (busy : Finset String) {name : String} (hconstant : constant? name = none)
      (hunknown : ∀ definition, (name, definition) ∉ symbols) :
      Visits symbols busy (.identifier name) (.computed .expression name) busy
  | busy {busy : Finset String} {name : String} (hconstant : constant? name = none)
      (hbusy : name ∈ busy) :
      Visits symbols busy (.identifier name) (.computed .expression name) busy
  | defined {busy after : Finset String} {name : String} {definition : Node} {value : Value}
      (hconstant : constant? name = none) (hdefined : (name, definition) ∈ symbols)
      (hfree : name ∉ busy)
      (hdefinition : Visits symbols (insert name busy) definition value after) :
      Visits symbols busy (.identifier name) value (after.erase name)

/-- Visits of nodes one after the other. -/
inductive VisitsAll (symbols : Symbols) :
    Finset String → List Node → List Value → Finset String → Prop
  | nil (busy : Finset String) : VisitsAll symbols busy [] [] busy
  | cons {busy between after : Finset String} {item : Node} {rest : List Node} {value : Value}
      {values : List Value} (hitem : Visits symbols busy item value between)
      (hrest : VisitsAll symbols between rest values after) :
      VisitsAll symbols busy (item :: rest) (value :: values) after
end

section

variable {symbols : Symbols}

mutual
/-- However a visit goes, the names in progress after it are those before it. -/
theorem Visits.restored {busy after : Finset String} {node : Node} {value : Value} :
    Visits symbols busy node value after → after = busy
  | .literal .. => rfl
  | .computed .. => rfl
  | .array hitems => hitems.restored
  | .object hentries => hentries.restored
  | .constant .. => rfl
  | .unknown .. => rfl
  | .busy .. => rfl
  | .defined _ _ hfree hdefinition => by
      rw [hdefinition.restored, Finset.erase_insert hfree]

theorem VisitsAll.restored {busy after : Finset String} {nodes : List Node}
    {values : List Value} : VisitsAll symbols busy nodes values after → after = busy
  | .nil _ => rfl
  | .cons hitem hrest => by rw [hrest.restored, hitem.restored]
end

mutual
/-- The value that a visit ends with is the one of the node, for the names that are not in progress. -/
theorem Visits.value_eq (hdistinct : symbols.Distinct) {busy after : Finset String} {node : Node}
    {value : Value} :
    Visits symbols busy node value after → value = node.rebuild (symbols.without busy)
  | .literal .. => by rw [Node.rebuild_literal]
  | .computed .. => by rw [Node.rebuild_computed]
  | .array hitems => by rw [Node.rebuild_array, hitems.values_eq hdistinct]
  | .object hentries => by rw [Node.rebuild_object, hentries.values_eq hdistinct]
  | .constant _ hconstant => (Node.rebuild_constant hconstant _).symm
  | .unknown _ hconstant hunknown =>
      (Node.rebuild_unknown hconstant fun definition hmem =>
        hunknown definition (Symbols.mem_without.mp hmem).1).symm
  | .busy hconstant hbusy =>
      (Node.rebuild_unknown hconstant fun _ hmem => (Symbols.mem_without.mp hmem).2 hbusy).symm
  | .defined hconstant hdefined hfree hdefinition => by
      have hmem := Symbols.mem_without.mpr ⟨hdefined, hfree⟩
      rw [Node.rebuild_defined (hdistinct.without _) hconstant hmem, Symbols.without_insert,
        hdefinition.value_eq hdistinct]

theorem VisitsAll.values_eq (hdistinct : symbols.Distinct) {busy after : Finset String}
    {nodes : List Node} {values : List Value} : VisitsAll symbols busy nodes values after →
      values = nodes.map (Node.rebuild (symbols.without busy))
  | .nil _ => rfl
  | .cons hitem hrest => by
      rw [List.map_cons, hitem.value_eq hdistinct, hrest.values_eq hdistinct, hitem.restored]
end

theorem sizeOf_map_snd_le (entries : List (String × Node)) :
    sizeOf (entries.map Prod.snd) ≤ sizeOf entries := by
  induction entries with
  | nil => exact le_refl _
  | cons entry rest ih =>
      obtain ⟨name, node⟩ := entry
      simp only [List.map_cons, List.cons.sizeOf_spec, Prod.mk.sizeOf_spec]
      omega

-- Entering a definition leaves fewer names to enter, and between two definitions the nodes shrink.
mutual
/-- Every node can be visited, whatever names are in progress. -/
theorem visits_rebuild (hdistinct : symbols.Distinct) (busy : Finset String) (node : Node) :
    Visits symbols busy node (node.rebuild (symbols.without busy)) busy := by
  match node with
  | .literal value =>
      rw [Node.rebuild_literal]
      exact .literal busy value
  | .computed kind source =>
      rw [Node.rebuild_computed]
      exact .computed busy kind source
  | .array items =>
      rw [Node.rebuild_array]
      exact .array (visitsAll_rebuild hdistinct busy items)
  | .object entries =>
      have hsmaller := sizeOf_map_snd_le entries
      rw [Node.rebuild_object]
      exact .object (visitsAll_rebuild hdistinct busy (entries.map Prod.snd))
  | .identifier name =>
      cases hconstant : Node.constant? name with
      | some value =>
          rw [Node.rebuild_constant hconstant]
          exact .constant busy hconstant
      | none =>
          by_cases hunknown : ∀ definition, (name, definition) ∉ symbols.without busy
          · rw [Node.rebuild_unknown hconstant hunknown]
            by_cases hbusy : name ∈ busy
            · exact .busy hconstant hbusy
            · exact .unknown busy hconstant fun definition hmem =>
                hunknown definition (Symbols.mem_without.mpr ⟨hmem, hbusy⟩)
          · push Not at hunknown
            obtain ⟨definition, hmem⟩ := hunknown
            obtain ⟨hdefined, hfree⟩ := Symbols.mem_without.mp hmem
            have hshorter := Symbols.length_without_insert hdefined hfree
            have hvisits := visits_rebuild hdistinct (insert name busy) definition
            rw [Node.rebuild_defined (hdistinct.without busy) hconstant hmem,
              Symbols.without_insert]
            have hdiscarded := Visits.defined hconstant hdefined hfree hvisits
            rwa [Finset.erase_insert hfree] at hdiscarded
termination_by ((symbols.without busy).length, sizeOf node)

theorem visitsAll_rebuild (hdistinct : symbols.Distinct) (busy : Finset String)
    (nodes : List Node) :
    VisitsAll symbols busy nodes (nodes.map (Node.rebuild (symbols.without busy))) busy := by
  match nodes with
  | [] => exact .nil busy
  | node :: rest =>
      exact .cons (visits_rebuild hdistinct busy node) (visitsAll_rebuild hdistinct busy rest)
termination_by ((symbols.without busy).length, sizeOf nodes)
end

/-- Visiting the node ends, and in one way only: with the value, and with the names in progress as they
were before. -/
def Reconstructs (symbols : Symbols) (busy : Finset String) (node : Node) (value : Value) : Prop :=
  ∀ result after, Visits symbols busy node result after ↔ result = value ∧ after = busy

theorem reconstructs_iff (hdistinct : symbols.Distinct) {busy : Finset String} {node : Node}
    {value : Value} :
    Reconstructs symbols busy node value ↔ value = node.rebuild (symbols.without busy) := by
  constructor
  · intro hvalue
    exact ((hvalue _ _).mp (visits_rebuild hdistinct busy node)).1.symm
  · rintro rfl result after
    constructor
    · exact fun hvisits => ⟨hvisits.value_eq hdistinct, hvisits.restored⟩
    · rintro ⟨rfl, rfl⟩
      exact visits_rebuild hdistinct after node

theorem values_of_reconstructs (hdistinct : symbols.Distinct) {busy : Finset String}
    {nodes : List Node} {values : List Value}
    (hvalues : List.Forall₂ (Reconstructs symbols busy) nodes values) :
    values = nodes.map (Node.rebuild (symbols.without busy)) := by
  induction hvalues with
  | nil => rfl
  | cons hfirst _ ih => rw [List.map_cons, ← (reconstructs_iff hdistinct).mp hfirst, ← ih]

/-- Whatever the definitions refer to, every node has one value.  The values of the items of an array
and of the entries of an object are those that the items and entries have by themselves; of several
entries of one name the last counts. -/
theorem reconstruction (hdistinct : symbols.Distinct) :
    (∀ busy node, ∃ value, Reconstructs symbols busy node value) ∧
      (∀ node, Reconstructs symbols ∅ node (node.rebuild symbols)) ∧
      (∀ busy items values, List.Forall₂ (Reconstructs symbols busy) items values →
        Reconstructs symbols busy (.array items) (.list values)) ∧
      ∀ busy (entries : List (String × Node)) values,
        List.Forall₂ (Reconstructs symbols busy) (entries.map Prod.snd) values →
          ∃ map : Entries, Reconstructs symbols busy (.object entries) (.map map) ∧
            map.map Prod.fst = (entries.map fun entry => Key.name entry.1).eraseDups ∧
            ∀ name, map.get? name =
              ((((entries.map Prod.fst).zip values).filter fun pair => pair.1 == name).getLast?).map
                Prod.snd := by
  refine ⟨fun busy node => ⟨_, (reconstructs_iff hdistinct).mpr rfl⟩, fun node => ?_,
    fun busy items values hitems => ?_, fun busy entries values hentries => ?_⟩
  · exact (reconstructs_iff hdistinct).mpr (by rw [Symbols.without_empty])
  · rw [reconstructs_iff hdistinct, Node.rebuild_array, values_of_reconstructs hdistinct hitems]
  · have hvalues := values_of_reconstructs hdistinct hentries
    have hnames : (entries.map fun entry => Key.name entry.1) =
        (entries.map Prod.fst).map Key.name := by
      rw [List.map_map]
      rfl
    refine ⟨Entries.ofPairs (((entries.map Prod.fst).map Key.name).zip values), ?_, ?_,
      Entries.get?_ofPairs_zip _ values⟩
    · rw [reconstructs_iff hdistinct, Node.rebuild_object, ← hvalues, hnames]
    · rw [Entries.keys_ofPairs, List.map_fst_zip (by simp [hvalues]), hnames]

end

/-- Two definitions that refer to each other from within containers. -/
def circularSymbols : Symbols :=
  [("outer", .array [.identifier "inner"]), ("inner", .object [("again", .identifier "outer")])]

/-- The name is resolved alike both times. -/
theorem circularSymbols_reconstruction :
    circularSymbols.Distinct ∧
      Reconstructs circularSymbols ∅ (.array [.identifier "outer", .identifier "outer"])
        (.list [
          .list [.map [(.name "again", .computed .expression "outer")]],
          .list [.map [(.name "again", .computed .expression "outer")]]]) := by
  have hdistinct : circularSymbols.Distinct := by decide
  have houter : (Node.identifier "outer").rebuild circularSymbols =
      .list [.map [(.name "again", .computed .expression "outer")]] := by
    simp [circularSymbols, Node.rebuild, Node.rebuildEntries, Node.constant?,
      Symbols.take?, Entries.ofPairs, Entries.put]
  obtain ⟨-, hvalue, -, -⟩ := reconstruction hdistinct
  have hitems := hvalue (.array [.identifier "outer", .identifier "outer"])
  rw [Node.rebuild_array, List.map_cons, List.map_cons, houter, List.map_nil] at hitems
  exact ⟨hdistinct, hitems⟩

end UnitText

end ScreenFlow
