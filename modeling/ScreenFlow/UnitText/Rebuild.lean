import ScreenFlow.UnitText.Node

/-!
Values from nodes.  A name stands for the value of its definition; a name without one, or one that
is already being resolved, stands for itself as a computed expression.
-/

namespace ScreenFlow.UnitText

/-- The definitions of names, each name once. -/
abbrev Symbols := List (String × Node)

namespace Symbols

/-- The definition of a name, and all other definitions. -/
def take? (name : String) : Symbols → Option (Node × Symbols)
  | [] => none
  | (known, node) :: rest =>
      if known = name then some (node, rest)
      else (take? name rest).map fun found => (found.1, (known, node) :: found.2)

/-- A definition replaces an earlier one, at its place. -/
def put : Symbols → String → Node → Symbols
  | [], name, node => [(name, node)]
  | (known, old) :: rest, name, node =>
      if known = name then (known, node) :: rest else (known, old) :: put rest name node

theorem length_take? {symbols others : Symbols} {name : String} {node : Node}
    (htake : symbols.take? name = some (node, others)) : others.length + 1 = symbols.length := by
  induction symbols generalizing others with
  | nil => simp [take?] at htake
  | cons entry rest ih =>
      obtain ⟨known, old⟩ := entry
      simp only [take?] at htake
      split at htake
      · simp only [Option.some.injEq, Prod.mk.injEq] at htake
        simp [← htake.2]
      · simp only [Option.map_eq_some_iff, Prod.mk.injEq] at htake
        obtain ⟨⟨found, kept⟩, hrest, rfl, rfl⟩ := htake
        simpa using ih hrest

end Symbols

namespace Node

/-- The names that are values by themselves, whatever definitions there are. -/
def constant? (name : String) : Option Value :=
  match name with
  | "True" => some (.bool true)
  | "False" => some (.bool false)
  | "None" => some .null
  | _ => none

mutual
/-- The value of a node when the names have the given definitions.  Inside the definition of a name
that name has none. -/
def rebuild (symbols : Symbols) (node : Node) : Value :=
  match node with
  | literal value => value
  | array items => .list (rebuildAll symbols items)
  | object entries => .map (Entries.ofPairs (rebuildEntries symbols entries))
  | identifier name =>
      match constant? name with
      | some value => value
      | none =>
          match hfound : symbols.take? name with
          | some (definition, others) =>
              have : others.length < symbols.length := by
                have := Symbols.length_take? hfound
                omega
              rebuild others definition
          | none => .computed .expression name
  | computed kind source => .computed kind source
termination_by (symbols.length, sizeOf node)

def rebuildAll (symbols : Symbols) (items : List Node) : List Value :=
  match items with
  | [] => []
  | item :: rest => rebuild symbols item :: rebuildAll symbols rest
termination_by (symbols.length, sizeOf items)

def rebuildEntries (symbols : Symbols) (entries : List (String × Node)) :
    List (Key × Value) :=
  match entries with
  | [] => []
  | (name, node) :: rest => (.name name, rebuild symbols node) :: rebuildEntries symbols rest
termination_by (symbols.length, sizeOf entries)
end

end Node

end ScreenFlow.UnitText
