import ScreenFlow.Graph.Incoming
import ScreenFlow.Proofs.Naming.StateName

/-!
Which edge is taken as the one that leads into a state.  Of several edges it is the first of those
that leave the likeliest state, among all that the graph declares; in which file the graph lies makes
no difference.
-/

namespace ScreenFlow

/-! The first item of the least rank. -/

section

variable {α β : Type} {rank : α → Nat} {items : List α} {chosen : α}

/-- Items before the chosen one have a higher rank, and items after it no lower one. -/
def ComesFirst (rank : α → Nat) (items : List α) (chosen : α) : Prop :=
  ∃ before after, items = before ++ chosen :: after ∧
    (∀ other ∈ before, rank chosen < rank other) ∧ ∀ other ∈ after, rank chosen ≤ rank other

theorem ComesFirst.mem (hfirst : ComesFirst rank items chosen) : chosen ∈ items := by
  obtain ⟨before, after, rfl, -, -⟩ := hfirst
  exact List.mem_append_right _ List.mem_cons_self

/-- Only the order of the ranks counts. -/
theorem ComesFirst.mono {other : α → Nat} (hfirst : ComesFirst rank items chosen)
    (horder : ∀ x ∈ items, ∀ y ∈ items, rank x < rank y ↔ other x < other y) :
    ComesFirst other items chosen := by
  have hchosen := hfirst.mem
  obtain ⟨before, after, hitems, hbefore, hafter⟩ := hfirst
  have hmem : ∀ item, item ∈ before ∨ item ∈ after → item ∈ items := by
    rintro item (hitem | hitem)
    · exact hitems ▸ List.mem_append_left _ hitem
    · exact hitems ▸ List.mem_append_right _ (List.mem_cons_of_mem _ hitem)
  refine ⟨before, after, hitems, fun item hitem => ?_, fun item hitem => ?_⟩
  · exact (horder _ hchosen _ (hmem item (.inl hitem))).mp (hbefore item hitem)
  · exact Nat.not_lt.mp fun hlt => Nat.not_lt.mpr (hafter item hitem)
      ((horder _ (hmem item (.inr hitem)) _ hchosen).mpr hlt)

/-- What comes first among the items that fit, by its place among all items. -/
theorem comesFirst_filter_iff (fits : α → Bool) :
    ComesFirst rank (items.filter fits) chosen ↔
      ∃ before after, items = before ++ chosen :: after ∧ fits chosen = true ∧
        (∀ other ∈ before, fits other = true → rank chosen < rank other) ∧
        ∀ other ∈ after, fits other = true → rank chosen ≤ rank other := by
  constructor
  · rintro ⟨before, after, hitems, hbefore, hafter⟩
    obtain ⟨first, rest, rfl, rfl, hrest⟩ := List.filter_eq_append_iff.mp hitems
    obtain ⟨skipped, last, rfl, hskipped, hchosen, rfl⟩ := List.filter_eq_cons_iff.mp hrest
    refine ⟨first ++ skipped, last, by simp, hchosen, fun other hmem hfits => ?_,
      fun other hmem hfits => hafter other (List.mem_filter.mpr ⟨hmem, hfits⟩)⟩
    rcases List.mem_append.mp hmem with hmem | hmem
    · exact hbefore other (List.mem_filter.mpr ⟨hmem, hfits⟩)
    · exact absurd hfits (hskipped other hmem)
  · rintro ⟨before, after, rfl, hchosen, hbefore, hafter⟩
    refine ⟨before.filter fits, after.filter fits, ?_, fun other hmem => ?_, fun other hmem => ?_⟩
    · rw [List.filter_append, List.filter_cons_of_pos hchosen]
    · obtain ⟨hmem, hfits⟩ := List.mem_filter.mp hmem
      exact hbefore other hmem hfits
    · obtain ⟨hmem, hfits⟩ := List.mem_filter.mp hmem
      exact hafter other hmem hfits

/-- Where some item has the rank zero, the first such item comes first. -/
theorem comesFirst_iff_of_find? (fits : α → Bool) {found : α}
    (hzero : ∀ item ∈ items, rank item = 0 ↔ fits item = true)
    (hfind : items.find? fits = some found) : ComesFirst rank items chosen ↔ found = chosen := by
  constructor
  · intro hfirst
    have hchosen := hfirst.mem
    obtain ⟨before, after, hitems, hbefore, hafter⟩ := hfirst
    have hfound : found ∈ items := List.mem_of_find?_eq_some hfind
    have hrank : rank found = 0 := (hzero found hfound).mpr (List.find?_some hfind)
    have hleast : rank chosen = 0 := by
      rw [hitems, List.mem_append, List.mem_cons] at hfound
      rcases hfound with hmem | rfl | hmem
      · exact absurd (hbefore found hmem) (by omega)
      · exact hrank
      · exact Nat.le_zero.mp (hrank ▸ hafter found hmem)
    have hothers : ∀ item ∈ before, (!fits item) = true := fun item hitem => by
      have hmem : item ∈ items := hitems ▸ List.mem_append_left _ hitem
      have hhigher := hbefore item hitem
      rw [Bool.not_eq_true', ← Bool.not_eq_true, ← hzero item hmem]
      omega
    have hfirst : items.find? fits = some chosen :=
      List.find?_eq_some_iff_append.mpr
        ⟨(hzero chosen hchosen).mp hleast, before, after, hitems, hothers⟩
    exact Option.some.inj (hfind.symm.trans hfirst)
  · rintro rfl
    obtain ⟨hfits, before, after, hitems, hothers⟩ := List.find?_eq_some_iff_append.mp hfind
    have hfound : rank found = 0 :=
      (hzero found (List.mem_of_find?_eq_some hfind)).mpr hfits
    refine ⟨before, after, hitems, fun item hitem => ?_, fun item _ => hfound ▸ Nat.zero_le _⟩
    have hmem : item ∈ items := hitems ▸ List.mem_append_left _ hitem
    have hother : fits item = false := by simpa using hothers item hitem
    rw [hfound, Nat.pos_iff_ne_zero, Ne, hzero item hmem, hother]
    exact Bool.false_ne_true

/-- Going through the words in order, and for each of them through the items, finds first what has
the least rank by the first word that an item fits. -/
theorem findSome?_find?_or_head?_eq_some_iff (fits : α → β → Bool) (words : List β)
    (items : List α) (chosen : α) :
    (words.findSome? fun word => items.find? (fits · word)).or items.head? = some chosen ↔
      ComesFirst (fun item => words.findIdx (fits item)) items chosen := by
  induction words with
  | nil =>
      cases items with
      | nil => simp [ComesFirst]
      | cons item rest =>
          refine Iff.trans ?_ (comesFirst_iff_of_find? (fun _ => true) ?_ rfl).symm
          · simp
          · simp
  | cons word rest ih =>
      rw [List.findSome?_cons]
      cases hfind : items.find? (fits · word) with
      | some found =>
          refine Iff.trans ?_ (comesFirst_iff_of_find? (fits · word) ?_ hfind).symm
          · simp
          · intro item _
            cases hfits : fits item word <;> simp [List.findIdx_cons, hfits]
      | none =>
          have hnone : ∀ item ∈ items, fits item word = false := by simpa using hfind
          -- no item fits the word, which raises every rank by one
          have horder : ∀ x ∈ items, ∀ y ∈ items,
              rest.findIdx (fits x) < rest.findIdx (fits y) ↔
                (word :: rest).findIdx (fits x) < (word :: rest).findIdx (fits y) := by
            intro x hx y hy
            simp [List.findIdx_cons, hnone x hx, hnone y hy]
          exact ih.trans ⟨fun hfirst => hfirst.mono horder, fun hfirst =>
            hfirst.mono fun x hx y hy => (horder x hx y hy).symm⟩

end

namespace Transition

/-- How late the state that an edge leaves comes among the likely ones; all others come last. -/
def rank (transition : Transition) : Nat :=
  likelyPrevious.findIdx fun preferred => StateName.denotes transition.fromState preferred

theorem pickPrevious_eq_some_iff {candidates : List Transition} {chosen : Transition} :
    pickPrevious candidates = some chosen ↔ ComesFirst rank candidates chosen := by
  unfold pickPrevious
  exact findSome?_find?_or_head?_eq_some_iff
    (fun (candidate : Transition) preferred => StateName.denotes candidate.fromState preferred)
    likelyPrevious candidates chosen

theorem pickPrevious_eq_none_iff {candidates : List Transition} :
    pickPrevious candidates = none ↔ candidates = [] := by
  constructor
  · intro hnone
    unfold pickPrevious at hnone
    exact List.head?_eq_none_iff.mp (Option.or_eq_none_iff.mp hnone).2
  · rintro rfl
    rfl

/-! Edges that are different. -/

theorem dedupe_go_eq_self {seen : List (String × String)} {transitions : List Transition}
    (hfresh : ∀ transition ∈ transitions, transition.key ∉ seen)
    (hnodup : (transitions.map key).Nodup) : dedupe.go seen transitions = transitions := by
  induction transitions generalizing seen with
  | nil => rfl
  | cons first rest ih =>
      obtain ⟨hfirst, hrest⟩ := List.forall_mem_cons.mp hfresh
      obtain ⟨hother, hnodup⟩ := List.nodup_cons.mp hnodup
      unfold dedupe.go
      rw [if_neg (by simpa using hfirst), ih ?_ hnodup]
      intro transition hmem hseen
      rcases List.mem_cons.mp hseen with hsame | hseen
      · exact hother (hsame ▸ List.mem_map_of_mem hmem)
      · exact hrest transition hmem hseen

/-- Edges that are all different are all kept. -/
theorem dedupe_eq_self {transitions : List Transition} (hnodup : (transitions.map key).Nodup) :
    dedupe transitions = transitions :=
  dedupe_go_eq_self (fun _ _ => List.not_mem_nil) hnodup

/-! The file in which the graph lies. -/

/-- The same edge in another file. -/
def withSource (sourcePath : Option String) (transition : Transition) : Transition :=
  { transition with sourcePath }

theorem pickPrevious_map_withSource (sourcePath : Option String) (candidates : List Transition) :
    pickPrevious (candidates.map (withSource sourcePath)) =
      (pickPrevious candidates).map (withSource sourcePath) := by
  unfold pickPrevious
  simp only [List.find?_map, List.head?_map, Option.map_or, List.map_findSome?]
  rfl

end Transition

namespace StateGraph

open Transition

theorem outgoing_withSource (record : StateRecord) (fromState : String)
    (sourcePath : Option String) :
    (record.outgoing fromState none).map (withSource sourcePath) =
      record.outgoing fromState sourcePath := by
  unfold StateRecord.outgoing
  rw [List.map_map]
  rfl

theorem allTransitions_withSource (graph : StateGraph) (sourcePath : Option String) :
    (graph.allTransitions none).map (withSource sourcePath) = graph.allTransitions sourcePath := by
  unfold allTransitions
  simp only [List.map_append, List.map_flatMap, outgoing_withSource]
  cases graph.rootStatus.filter (· != "") with
  | none => rfl
  | some status => rw [outgoing_withSource]

theorem incoming_withSource (graph : StateGraph) (target : String)
    (sourcePath platform : Option String) :
    (graph.incoming target none platform).map (withSource sourcePath) =
      graph.incoming target sourcePath platform := by
  unfold incoming
  rw [← allTransitions_withSource graph sourcePath, List.filter_map]
  rfl

/-- The state before is the one that the edge into the target leaves, whatever file it is in. -/
theorem fromState_pickPrevious_incoming (graph : StateGraph) (target : String)
    (sourcePath platform : Option String) :
    (pickPrevious (graph.incoming target sourcePath platform)).map (·.fromState) =
      graph.previousState target platform := by
  rw [← incoming_withSource, pickPrevious_map_withSource, Option.map_map]
  rfl

/-! The state before a target. -/

/-- The edge lands on the target, starts elsewhere, and applies to the platform if one is named. -/
structure LeadsInto (target : String) (platform : Option String) (edge : Transition) : Prop where
  lands : StateName.denotes edge.toState target = true
  elsewhere : StateName.denotes edge.fromState target = false
  applies : ∀ name ∈ platform, edge.platforms = [] ∨ name ∈ edge.platforms

theorem leadsInto_iff {target : String} {platform : Option String} {edge : Transition} :
    leadsInto target platform edge = true ↔ LeadsInto target platform edge := by
  have happlies : (platform.map edge.appliesTo).getD true = true ↔
      ∀ name ∈ platform, edge.platforms = [] ∨ name ∈ edge.platforms := by
    cases platform with
    | none => simp
    | some name => simp [Transition.appliesTo]
  unfold leadsInto
  rw [Bool.and_eq_true, Bool.and_eq_true, happlies, Bool.not_eq_true', and_assoc]
  exact ⟨fun ⟨hlands, helsewhere, happlies⟩ => ⟨hlands, helsewhere, happlies⟩,
    fun hleads => ⟨hleads.lands, hleads.elsewhere, hleads.applies⟩⟩

/-- There is no state before the target just when no edge leads into it.  Otherwise it is the state
that is left by the likeliest of these edges, and of equally likely ones by the first. -/
theorem previousState_iff (graph : StateGraph) (target : String) (platform : Option String) :
    (graph.previousState target platform = none ↔
        ∀ edge ∈ graph.allTransitions none, ¬ LeadsInto target platform edge) ∧
      ∀ state, graph.previousState target platform = some state ↔
        ∃ before edge after, graph.allTransitions none = before ++ edge :: after ∧
          edge.fromState = state ∧ LeadsInto target platform edge ∧
          (∀ other ∈ before, LeadsInto target platform other → edge.rank < other.rank) ∧
          ∀ other ∈ after, LeadsInto target platform other → edge.rank ≤ other.rank := by
  unfold previousState incoming
  constructor
  · rw [Option.map_eq_none_iff, Transition.pickPrevious_eq_none_iff, List.filter_eq_nil_iff]
    simp only [leadsInto_iff]
  · intro state
    rw [Option.map_eq_some_iff]
    simp only [Transition.pickPrevious_eq_some_iff, comesFirst_filter_iff, leadsInto_iff]
    constructor
    · rintro ⟨edge, ⟨before, after, hedges, hleads, hbefore, hafter⟩, hfrom⟩
      exact ⟨before, edge, after, hedges, hfrom, hleads, hbefore, hafter⟩
    · rintro ⟨before, edge, after, hedges, hfrom, hleads, hbefore, hafter⟩
      exact ⟨edge, ⟨before, after, hedges, hleads, hbefore, hafter⟩, hfrom⟩

end StateGraph

end ScreenFlow
