import ScreenFlow.Proofs.Effect
import ScreenFlow.Scope.Resolve
import Mathlib.Tactic.SplitIfs

/-!
What a name is read from.  In the scope of steps, blocks and fields a name is read from the stored
results just when one of the steps or blocks stores it; a field of the same name does not matter.

Scopes that read every name from the same object.  An expression depends on its scope through these
objects only, and the fields of the context make no difference to them.
-/

namespace ScreenFlow

namespace Scope

/-! Names that are stored. -/

/-- One of the steps, or one of the blocks, stores a result under the name. -/
def Stores (steps : List Step) (blocks : List Block) (name : String) : Prop :=
  (∃ step ∈ steps, step.stored? = some name) ∨
    ∃ block ∈ blocks, ∃ names, block.storedNames = .ok names ∧ name ∈ names

theorem ne_empty_of_filter_eq_some {text : Option String} {name : String}
    (hname : text.filter (· != "") = some name) : name ≠ "" := by
  obtain ⟨-, hne⟩ := Option.filter_eq_some_iff.mp hname
  simpa using hne

theorem Stores.ne_empty {steps : List Step} {blocks : List Block} {name : String}
    (hstores : Stores steps blocks name) : name ≠ "" := by
  rcases hstores with ⟨step, -, hname⟩ | ⟨block, -, names, hnames, hmem⟩
  · exact ne_empty_of_filter_eq_some hname
  · unfold Block.storedNames at hnames
    split_ifs at hnames
    · obtain ⟨data, -, hnames⟩ := exists_of_bind_eq_ok hnames
      cases hnames
      exact ne_empty_of_filter_eq_some (Option.mem_toList.mp hmem)
    · obtain ⟨checks, -, hnames⟩ := exists_of_bind_eq_ok hnames
      cases hnames
      obtain ⟨assertion, -, hname⟩ := List.mem_filterMap.mp hmem
      exact ne_empty_of_filter_eq_some hname
    · cases hnames
      exact ne_empty_of_filter_eq_some (Option.mem_toList.mp hmem)

/-- Entries of stored results, one at least for each of the names and none for any other. -/
structure Keeps (scope : Scope) (Name : String → Prop) : Prop where
  stored : ∀ entry ∈ scope, entry.kind = .storedResult
  named : ∀ name, (∃ entry ∈ scope, entry.name = name) ↔ Name name

theorem Keeps.append {first second : Scope} {First Second : String → Prop}
    (hfirst : first.Keeps First) (hsecond : second.Keeps Second) :
    Keeps (first ++ second) fun name => First name ∨ Second name where
  stored entry hentry := by
    rcases List.mem_append.mp hentry with hentry | hentry
    · exact hfirst.stored entry hentry
    · exact hsecond.stored entry hentry
  named name := by
    rw [← hfirst.named, ← hsecond.named]
    simp only [List.mem_append, or_and_right, exists_or]

theorem ofSteps_keeps (steps : List Step) :
    (ofSteps steps).Keeps fun name => ∃ step ∈ steps, step.stored? = some name where
  stored entry hentry := by
    obtain ⟨step, -, hstep⟩ := List.mem_filterMap.mp hentry
    obtain ⟨name, -, rfl⟩ := Option.map_eq_some_iff.mp hstep
    rfl
  named name := by
    constructor
    · rintro ⟨entry, hentry, rfl⟩
      obtain ⟨step, hmem, hstep⟩ := List.mem_filterMap.mp hentry
      obtain ⟨stored, hstored, rfl⟩ := Option.map_eq_some_iff.mp hstep
      exact ⟨step, hmem, hstored⟩
    · rintro ⟨step, hmem, hstored⟩
      refine ⟨⟨name, .storedResult, "transition:" ++ step.method⟩, ?_, rfl⟩
      exact List.mem_filterMap.mpr ⟨step, hmem, Option.map_eq_some_iff.mpr ⟨name, hstored, rfl⟩⟩

theorem ofBlock_keeps {block : Block} {names : List String}
    (hnames : block.storedNames = .ok names) :
    ∃ scope, ofBlock block = .ok scope ∧ scope.Keeps (· ∈ names) := by
  refine ⟨names.map fun name => ⟨name, .storedResult, "block:" ++ block.heading⟩, ?_, ?_, ?_⟩
  · rw [ofBlock, hnames]
    rfl
  · simp
  · simp

theorem ofBlocks_keeps {blocks : List Block}
    (hread : ∀ block ∈ blocks, ∃ names, block.storedNames = .ok names) :
    ∃ scope, ofBlocks blocks = .ok scope ∧ scope.Keeps fun name =>
      ∃ block ∈ blocks, ∃ names, block.storedNames = .ok names ∧ name ∈ names := by
  induction blocks with
  | nil => exact ⟨[], rfl, by simp, by simp⟩
  | cons block rest ih =>
      obtain ⟨names, hnames⟩ := hread block List.mem_cons_self
      obtain ⟨first, hfirst, hkeeps⟩ := ofBlock_keeps hnames
      obtain ⟨others, hothers, hrest⟩ :=
        ih fun other hmem => hread other (List.mem_cons_of_mem _ hmem)
      refine ⟨first ++ others, ?_, ?_⟩
      · rw [ofBlocks, hfirst, hothers]
        rfl
      · have hboth := hkeeps.append hrest
        refine ⟨hboth.stored, fun name => (hboth.named name).trans ?_⟩
        simp only [List.mem_cons, exists_eq_or_imp, hnames, Except.ok.injEq, exists_eq_left']

theorem storedNames_of_ofBlocks_eq_ok {blocks : List Block} {scope : Scope}
    (hscope : ofBlocks blocks = .ok scope) :
    ∀ block ∈ blocks, ∃ names, block.storedNames = .ok names := by
  induction blocks generalizing scope with
  | nil => simp
  | cons block rest ih =>
      obtain ⟨first, hfirst, hscope⟩ := exists_of_bind_eq_ok hscope
      obtain ⟨others, hothers, -⟩ := exists_of_bind_eq_ok hscope
      obtain ⟨names, hnames, -⟩ := exists_of_bind_eq_ok hfirst
      exact List.forall_mem_cons.mpr ⟨⟨names, hnames⟩, ih hothers⟩

theorem build_ok (steps : List Step) {blocks : List Block} (fields : List String)
    (hread : ∀ block ∈ blocks, ∃ names, block.storedNames = .ok names) :
    ∃ stored : Scope, build steps blocks fields = .ok (stored ++ ofFields fields) ∧
      stored.Keeps (Stores steps blocks) := by
  obtain ⟨scope, hscope, hkeeps⟩ := ofBlocks_keeps hread
  refine ⟨ofSteps steps ++ scope, ?_, (ofSteps_keeps steps).append hkeeps⟩
  rw [build, hscope]
  rfl

/-- The scope of a step has no blocks. -/
theorem build_nil (steps : List Step) (fields : List String) :
    build steps [] fields = .ok (ofSteps steps ++ ofFields fields) := by
  change Except.ok (ofSteps steps ++ [] ++ ofFields fields) = _
  rw [List.append_nil]

theorem exists_of_build_eq_ok {steps : List Step} {blocks : List Block} {fields : List String}
    {scope : Scope} (hbuild : build steps blocks fields = .ok scope) :
    ∃ stored : Scope, scope = stored ++ ofFields fields ∧ stored.Keeps (Stores steps blocks) := by
  obtain ⟨found, hfound, -⟩ := exists_of_bind_eq_ok hbuild
  obtain ⟨stored, hstored, hkeeps⟩ := build_ok steps fields (storedNames_of_ofBlocks_eq_ok hfound)
  rw [hbuild, Except.ok.injEq] at hstored
  exact ⟨stored, hstored, hkeeps⟩

/-! Roots. -/

theorem rootOf_eq_contextRoot_iff {scope : Scope} {name : String} :
    scope.rootOf name = contextRoot ↔ scope.rootOf name ≠ storedRoot := by
  have hne : storedRoot ≠ contextRoot := by decide
  unfold rootOf
  split
  · split <;> simp [hne, hne.symm]
  · simp [hne.symm]

theorem rootOf_mem (scope : Scope) (name : String) :
    scope.rootOf name ∈ [contextRoot, storedRoot] := by
  by_cases hstored : scope.rootOf name = storedRoot
  · rw [hstored]
    decide
  · rw [rootOf_eq_contextRoot_iff.mpr hstored]
    decide

theorem rootOf_append_ofFields {stored : Scope} {Name : String → Prop} (hkeeps : stored.Keeps Name)
    (fields : List String) (name : String) :
    (stored ++ ofFields fields).rootOf name = storedRoot ↔ Name name := by
  rw [← hkeeps.named, rootOf, lookup?, List.find?_append]
  cases hfound : stored.find? fun entry => entry.name == name with
  | some entry =>
      -- the first entry of the name is one of the stored results
      have hmem := List.mem_of_find?_eq_some hfound
      have hname := List.find?_some hfound
      simp only [Option.some_or, hkeeps.stored entry hmem, if_true, true_iff]
      exact ⟨entry, hmem, beq_iff_eq.mp hname⟩
  | none =>
      have hnone : ¬∃ entry ∈ stored, entry.name = name := by
        rintro ⟨entry, hmem, hname⟩
        exact absurd (List.find?_eq_none.mp hfound entry hmem) (by simp [hname])
      rw [Option.none_or, iff_false_right hnone]
      cases hfield : (ofFields fields).find? fun entry => entry.name == name with
      | none => decide
      | some entry =>
          have hkind : entry.kind = .contextField := by
            obtain ⟨field, -, rfl⟩ := List.mem_map.mp (List.mem_of_find?_eq_some hfield)
            rfl
          simp only [hkind, reduceCtorEq, if_false]
          decide

/-- Fields of the context come last, so that they never hide what has been stored. -/
theorem rootOf_build_iff {steps : List Step} {blocks : List Block} {fields : List String}
    {scope : Scope} (hbuild : build steps blocks fields = .ok scope) (name : String) :
    scope.rootOf name = storedRoot ↔ Stores steps blocks name := by
  obtain ⟨stored, rfl, hkeeps⟩ := exists_of_build_eq_ok hbuild
  exact rootOf_append_ofFields hkeeps fields name

/-! Expressions. -/

/-- The expression reads a property of the object, or something inside that property. -/
def IsAccess (object expression : String) : Prop :=
  ∃ name accesses, expression = Script.member object name ++ accesses

theorem member_append_isAccess (object name accesses : String) :
    IsAccess object (Script.member object name ++ accesses) :=
  ⟨name, accesses, rfl⟩

theorem IsAccess.object_prefix {object expression : String} (haccess : IsAccess object expression) :
    object.toList <+: expression.toList := by
  obtain ⟨name, accesses, rfl⟩ := haccess
  unfold Script.member
  split <;> simp [String.toList_append, List.append_assoc]

/-- No expression reads from both objects. -/
theorem not_isAccess_contextRoot {expression : String} (haccess : IsAccess storedRoot expression) :
    ¬IsAccess contextRoot expression := by
  intro hcontext
  have hboth := List.prefix_or_prefix_of_prefix haccess.object_prefix hcontext.object_prefix
  revert hboth
  decide

/-- What stands before the first access. -/
def headOf (name : String) : String :=
  String.ofList (name.toList.takeWhile fun c => !isHeadEnd c)

def accessesOf (name : String) : String :=
  String.ofList (name.toList.dropWhile fun c => !isHeadEnd c)

/-- A name with accesses, on one line, that does not start at one of the two roots. -/
structure IsPath (name : String) : Prop where
  unqualified : isQualified name = false
  onOneLine : '\n' ∉ name.toList
  startsWithName : ∀ c, name.toList.head? = some c → isHeadEnd c = false

theorem resolveReference_of_isPath (scope : Scope) {reference : String}
    (hpath : IsPath (trimmed reference)) :
    scope.resolveReference reference =
      Script.member (scope.rootOf (headOf (trimmed reference))) (headOf (trimmed reference)) ++
        accessesOf (trimmed reference) := by
  have hline : '\n' ∉ (trimmed reference).toList.dropWhile fun c => !isHeadEnd c :=
    fun hmem => hpath.onOneLine ((List.dropWhile_sublist _).subset hmem)
  unfold resolveReference splitHead headOf accessesOf
  simp only [hpath.unqualified, Bool.false_eq_true, if_false]
  cases hname : (trimmed reference).toList with
  | nil => simp
  | cons c rest =>
      have hstart := hpath.startsWithName c (by rw [hname]; rfl)
      rw [hname] at hline
      simp [hstart] at hline ⊢
      simp [hline]

/-! Scopes that read alike. -/

/-- Every name is read from the same object in both scopes. -/
def Alike (first second : Scope) : Prop :=
  ∀ name, first.rootOf name = second.rootOf name

/-- A field is read from the context data, like a name that is not in the scope at all. -/
theorem append_ofFields_alike (scope : Scope) (fields : List String) :
    Alike (scope ++ ofFields fields) scope := by
  intro name
  unfold rootOf lookup?
  rw [List.find?_append]
  cases scope.find? fun entry => entry.name == name with
  | some entry => rfl
  | none =>
      rw [Option.none_or]
      cases hfield : (ofFields fields).find? fun entry => entry.name == name with
      | none => rfl
      | some entry =>
          obtain ⟨field, -, rfl⟩ := List.mem_map.mp (List.mem_of_find?_eq_some hfield)
          rfl

/-! The name that a reference reads. -/

/-- The name that is looked up for the reference. -/
def nameRead (reference : String) : String :=
  String.ofList (splitHead (trimmed reference).toList).1

/-- What is read inside of the value under the name. -/
def accessesRead (reference : String) : String :=
  String.ofList (splitHead (trimmed reference).toList).2

theorem resolveReference_eq (scope : Scope) (reference : String) :
    scope.resolveReference reference =
      if isQualified (trimmed reference) then trimmed reference
      else Script.member (scope.rootOf (nameRead reference)) (nameRead reference) ++
        accessesRead reference := by
  simp only [resolveReference, nameRead, accessesRead]

/-- An expression stands as it is.  Any other reference reads what a step or a block stores under its
name and, without any, the context data. -/
theorem resolveReference_build {steps : List Step} {blocks : List Block} {fields : List String}
    {scope : Scope} (hbuild : build steps blocks fields = .ok scope) (reference : String) :
    (isQualified (trimmed reference) = true →
        scope.resolveReference reference = trimmed reference) ∧
      (isQualified (trimmed reference) = false →
        (Stores steps blocks (nameRead reference) →
          scope.resolveReference reference =
            storedTarget (nameRead reference) ++ accessesRead reference) ∧
        (¬Stores steps blocks (nameRead reference) →
          scope.resolveReference reference =
            Script.member contextRoot (nameRead reference) ++ accessesRead reference)) := by
  rw [resolveReference_eq, ← rootOf_build_iff hbuild, ← ne_eq, ← rootOf_eq_contextRoot_iff]
  constructor
  · exact fun hqualified => if_pos hqualified
  · intro hunqualified
    rw [hunqualified, if_neg (by decide)]
    exact ⟨fun hroot => by rw [hroot]; rfl, fun hroot => by rw [hroot]⟩

/-! What is resolved in scopes that are alike. -/

variable {first second : Scope}

theorem Alike.resolveReference (halike : Alike first second) (reference : String) :
    first.resolveReference reference = second.resolveReference reference := by
  rw [resolveReference_eq, resolveReference_eq, halike]

theorem Alike.templateLiteral (halike : Alike first second) (segments : List Segment) :
    first.templateLiteral segments = second.templateLiteral segments := by
  have hparts : first.templatePart = second.templatePart := by
    funext segment
    cases segment with
    | plain text => rfl
    | reference name => simp only [templatePart, halike.resolveReference]
  unfold Scope.templateLiteral
  rw [hparts]

theorem Alike.resolveText (halike : Alike first second) (text : String) :
    first.resolveText text = second.resolveText text := by
  unfold Scope.resolveText
  simp only [halike.resolveReference, halike.templateLiteral]

mutual
theorem Alike.resolve (halike : Alike first second) :
    ∀ value, first.resolve value = second.resolve value
  | .text value => by simp only [Scope.resolve, halike.resolveText]
  | .list items => by simp only [Scope.resolve, halike.resolveItems items]
  | .tuple items => by simp only [Scope.resolve, halike.resolveItems items]
  | .map entries => by simp only [Scope.resolve, halike.resolveEntries entries]
  | .null => rfl
  | .bool _ => rfl
  | .int _ => rfl
  | .float _ => rfl
  | .computed _ _ => rfl
  | .callable _ => rfl
  | .other _ _ => rfl

theorem Alike.resolveItems (halike : Alike first second) :
    ∀ items, first.resolveItems items = second.resolveItems items
  | [] => rfl
  | item :: items => by
      simp only [Scope.resolveItems, halike.resolve item, halike.resolveItems items]

theorem Alike.resolveEntries (halike : Alike first second) :
    ∀ entries, first.resolveEntries entries = second.resolveEntries entries
  | [] => rfl
  | (_, value) :: rest => by
      simp only [Scope.resolveEntries, halike.resolve value, halike.resolveEntries rest]
end

end Scope

end ScreenFlow
