import ScreenFlow.Proofs.Data.ClassText
import ScreenFlow.Proofs.Entries
import ScreenFlow.UnitText.Machine
import Mathlib.Data.List.Nodup

/-!
What a unit is made of, as data, and the fields that spell it: each attribute in one of its two
spellings, in any order.  Maps, the names of a class and the definitions of a text are all written key
by key; of distinct keys, each stands where it was written.
-/

namespace ScreenFlow

open UnitText

section Writing

variable {κ α : Type} [DecidableEq κ]

end Writing

/-- The names of the attributes of a unit, each in one of its two spellings. -/
structure AttributeNames where
  graph : String
  screens : String
  triggers : String
  graph_mem : graph ∈ Attribute.graph
  screens_mem : screens ∈ Attribute.screens
  triggers_mem : triggers ∈ Attribute.triggers

/-- What a unit is made of, as data. -/
structure UnitData where
  graph : Data
  screens : Data
  triggers : Data

namespace UnitData

def fields (unit : UnitData) (names : AttributeNames) : List DataField :=
  [(names.graph, unit.graph), (names.screens, unit.screens), (names.triggers, unit.triggers)]

/-- The fields are the attributes of the unit, in any order and in any of their spellings. -/
def SpelledBy (unit : UnitData) (fields : List DataField) : Prop :=
  ∃ names : AttributeNames, fields.Perm (unit.fields names)

/-- How deep lists and maps stand in each other. -/
def depth (unit : UnitData) : Nat :=
  max unit.graph.depth (max unit.screens.depth unit.triggers.depth)

def isShort (unit : UnitData) : Bool :=
  unit.graph.isShort && (unit.screens.isShort && unit.triggers.isShort)

/-- Whether a class text with the data can be read. -/
def fits (unit : UnitData) : Bool :=
  unit.graph.fits 0 && (unit.screens.fits 0 && unit.triggers.fits 0)

end UnitData

namespace UnitData

variable {unit : UnitData} {fields : List DataField}

theorem SpelledBy.nodup (hfields : unit.SpelledBy fields) : (fields.map Prod.fst).Nodup := by
  obtain ⟨names, hperm⟩ := hfields
  have hall : ∀ g ∈ Attribute.graph, ∀ s ∈ Attribute.screens, ∀ t ∈ Attribute.triggers,
      [g, s, t].Nodup := by
    decide
  rw [(hperm.map Prod.fst).nodup_iff]
  exact hall _ names.graph_mem _ names.screens_mem _ names.triggers_mem

theorem SpelledBy.known (hfields : unit.SpelledBy fields) :
    ∀ field ∈ fields, field.1 ∈ Attribute.all := by
  obtain ⟨names, hperm⟩ := hfields
  intro field hmem
  have hthree : field ∈ unit.fields names := hperm.subset hmem
  simp only [UnitData.fields, List.mem_cons, List.not_mem_nil, or_false] at hthree
  obtain rfl | rfl | rfl := hthree
  · exact List.mem_append_left _ (List.mem_append_left _ names.graph_mem)
  · exact List.mem_append_left _ (List.mem_append_right _ names.screens_mem)
  · exact List.mem_append_right _ names.triggers_mem

theorem SpelledBy.hasGraph (hfields : unit.SpelledBy fields) :
    ∃ field ∈ fields, field.1 ∈ Attribute.graph := by
  obtain ⟨names, hperm⟩ := hfields
  exact ⟨(names.graph, unit.graph), hperm.mem_iff.mpr List.mem_cons_self, names.graph_mem⟩

end UnitData

end ScreenFlow
