import ScreenFlow.Graph.Incoming
import ScreenFlow.Proofs.Discovery
import ScreenFlow.Proofs.Graph.Target

/-!
An index of the edges of one graph, beside the graph itself.  Both know the edges that lead into a
state, the first of each key; the index alone also gives those that start at the state.

An index and a graph that declare an edge with the same platforms.  Both read a list of names alike;
a name alone is one platform to the graph, and as many as it has characters to the index.
-/

namespace ScreenFlow

namespace Transition

def edge (transition : Transition) : String × String × String :=
  (transition.fromState, transition.event, transition.toState)

def startsElsewhere (target : String) (transition : Transition) : Bool :=
  !StateName.denotes transition.fromState target

/-- Edges are told apart by their keys, so that leaving out some keys may be done before or
after. -/
theorem dedupe_go_filter {keep : String × String → Bool} {seen kept : List (String × String)}
    (hseen : ∀ key, keep key = true → (key ∈ kept ↔ key ∈ seen)) (transitions : List Transition) :
    dedupe.go kept (transitions.filter (keep ·.key)) =
      (dedupe.go seen transitions).filter (keep ·.key) := by
  -- The two lists of seen keys agree on the keys that are not left out.
  induction transitions generalizing seen kept with
  | nil => rfl
  | cons first rest ih =>
      cases hkeep : keep first.key with
      | false =>
          rw [List.filter_cons_of_neg (by simp [hkeep])]
          conv => rhs; unfold dedupe.go
          split
          · exact ih hseen
          · rw [List.filter_cons_of_neg (by simp [hkeep])]
            refine ih fun key hkey => ?_
            have hne : key ≠ first.key := fun heq => by simp [← heq, hkey] at hkeep
            rw [hseen key hkey, List.mem_cons, or_iff_right hne]
      | true =>
          have hfirst : kept.contains first.key = seen.contains first.key := by
            rw [Bool.eq_iff_iff, List.contains_iff_mem, List.contains_iff_mem]
            exact hseen _ hkeep
          rw [List.filter_cons_of_pos (by simpa using hkeep)]
          unfold dedupe.go
          rw [hfirst]
          split
          · exact ih hseen
          · rw [List.filter_cons_of_pos (by simpa using hkeep)]
            refine congrArg (first :: ·) (ih fun key hkey => ?_)
            rw [List.mem_cons, List.mem_cons, hseen key hkey]

theorem dedupe_filter (keep : String × String → Bool) (transitions : List Transition) :
    dedupe (transitions.filter (keep ·.key)) = (dedupe transitions).filter (keep ·.key) :=
  dedupe_go_filter (fun _ _ => Iff.rfl) transitions

theorem mem_of_mem_dedupe_go {seen : List (String × String)} {transitions : List Transition}
    {transition : Transition} (hmem : transition ∈ dedupe.go seen transitions) :
    transition ∈ transitions := by
  induction transitions generalizing seen with
  | nil => cases hmem
  | cons first rest ih =>
      unfold dedupe.go at hmem
      split at hmem
      · exact List.mem_cons_of_mem _ (ih hmem)
      · rcases List.mem_cons.mp hmem with rfl | hmem
        · exact List.mem_cons_self
        · exact List.mem_cons_of_mem _ (ih hmem)

theorem exists_mem_dedupe_go {seen : List (String × String)} {transitions : List Transition}
    {transition : Transition} (hmem : transition ∈ transitions) (hkey : transition.key ∉ seen) :
    ∃ kept ∈ dedupe.go seen transitions, kept.key = transition.key := by
  induction transitions generalizing seen with
  | nil => cases hmem
  | cons first rest ih =>
      unfold dedupe.go
      split
      · next hseen =>
          rcases List.mem_cons.mp hmem with rfl | hmem
          · exact absurd (List.contains_iff_mem.mp hseen) hkey
          · exact ih hmem hkey
      · by_cases hsame : transition.key = first.key
        · exact ⟨first, List.mem_cons_self, hsame.symm⟩
        · have hrest : transition ∈ rest :=
            (List.mem_cons.mp hmem).resolve_left fun heq => hsame (heq ▸ rfl)
          have hrestKey : transition.key ∉ first.key :: seen := by simp [hsame, hkey]
          obtain ⟨kept, hkept, heq⟩ := ih hrest hrestKey
          exact ⟨kept, List.mem_cons_of_mem _ hkept, heq⟩

theorem forall_mem_dedupe_iff (keep : String × String → Bool) (transitions : List Transition) :
    (∀ transition ∈ dedupe transitions, keep transition.key = true) ↔
      ∀ transition ∈ transitions, keep transition.key = true := by
  constructor
  · intro hall transition hmem
    obtain ⟨kept, hkept, hkey⟩ := exists_mem_dedupe_go hmem List.not_mem_nil
    exact hkey ▸ hall kept hkept
  · exact fun hall transition hmem => hall transition (mem_of_mem_dedupe_go hmem)

end Transition

namespace IndexEntry

/-- What an index holds of an edge. -/
def ofTransition (transition : Transition) : IndexEntry where
  event := transition.event
  fromState := transition.fromState
  toState := transition.toState
  platforms := transition.platforms
  sourceFile := (transition.sourcePath.map Value.text).getD .null

def edge (entry : IndexEntry) : String × String × String :=
  (entry.fromState, entry.event, entry.toState)

def startsElsewhere (target : String) (entry : IndexEntry) : Bool :=
  !StateName.denotes entry.fromState target

end IndexEntry

theorem DiscoveryIndex.dedupe_map_ofTransition (seen : List (String × String))
    (transitions : List Transition) :
    dedupe seen (transitions.map IndexEntry.ofTransition) =
      (Transition.dedupe.go seen transitions).map IndexEntry.ofTransition := by
  induction transitions generalizing seen with
  | nil => rfl
  | cons first rest ih =>
      have hkey : (IndexEntry.ofTransition first).key = first.key := rfl
      rw [List.map_cons]
      unfold dedupe Transition.dedupe.go
      rw [hkey]
      split
      · exact ih seen
      · rw [List.map_cons, ih]

namespace StateGraph

open Transition

/-- The index of a graph: its edges in order, each with the file it is from. -/
def index (graph : StateGraph) (sourcePath : Option String) : DiscoveryIndex :=
  (graph.allTransitions sourcePath).map .ofTransition

/-- The edges that lead into a state on a platform, those that start at the state among them. -/
def arriving (graph : StateGraph) (target : String) (sourcePath platform : Option String) :
    List Transition :=
  (graph.allTransitions sourcePath).filter fun transition =>
    StateName.denotes transition.toState target && (platform.map transition.appliesTo).getD true

theorem incoming_eq_filter_arriving (graph : StateGraph) (target : String)
    (sourcePath platform : Option String) :
    graph.incoming target sourcePath platform =
      (graph.arriving target sourcePath platform).filter (startsElsewhere target) := by
  unfold incoming arriving leadsInto startsElsewhere
  rw [List.filter_filter]
  refine List.filter_congr fun transition _ => ?_
  rw [Bool.and_right_comm, Bool.and_comm]

theorem incoming_index {platform : Option String} (hplatform : platform ≠ some "")
    (graph : StateGraph) (target : String) (sourcePath : Option String) :
    (graph.index sourcePath).incoming target platform =
      (dedupe (graph.arriving target sourcePath platform)).map .ofTransition := by
  have hfilter : platform.filter (· != "") = platform := by
    cases platform with
    | none => rfl
    | some name => simpa [Option.filter] using hplatform
  unfold index DiscoveryIndex.incoming arriving
  rw [List.filter_map, DiscoveryIndex.dedupe_map_ofTransition]
  unfold dedupe
  congr 2
  refine List.filter_congr fun transition _ => ?_
  simp only [Function.comp_apply, IndexEntry.leadsInto, hfilter]
  cases platform <;> rfl

/-- Left without the edges that start at the target, what the index gives is what the graph gives;
the two agree as they stand exactly when no edge that leads into the target starts there. -/
theorem incoming_index_startsElsewhere {platform : Option String} (hplatform : platform ≠ some "")
    (graph : StateGraph) (target : String) (sourcePath : Option String) :
    (((graph.index sourcePath).incoming target platform).filter
          (IndexEntry.startsElsewhere target)).map IndexEntry.edge =
        (dedupe (graph.incoming target sourcePath platform)).map edge ∧
      (((graph.index sourcePath).incoming target platform).map IndexEntry.edge =
          (dedupe (graph.incoming target sourcePath platform)).map edge ↔
        ∀ transition ∈ graph.arriving target sourcePath platform,
          startsElsewhere target transition = true) := by
  have hgraph : dedupe (graph.incoming target sourcePath platform) =
      (dedupe (graph.arriving target sourcePath platform)).filter (startsElsewhere target) := by
    rw [incoming_eq_filter_arriving]
    exact dedupe_filter (fun key => !StateName.denotes key.1 target) _
  rw [incoming_index hplatform, hgraph]
  constructor
  · rw [List.filter_map, List.map_map]
    rfl
  · rw [List.map_map]
    refine Iff.trans ?_
      (forall_mem_dedupe_iff (fun key => !StateName.denotes key.1 target) _)
    constructor
    · intro hsame
      -- A part of the list that is the whole of it leaves nothing out, so lengths will do.
      refine List.length_filter_eq_length_iff.mp ?_
      have hlength := congrArg List.length hsame
      rw [List.length_map, List.length_map] at hlength
      exact hlength.symm
    · intro hall
      have hkept : (dedupe (graph.arriving target sourcePath platform)).filter
          (startsElsewhere target) = dedupe (graph.arriving target sourcePath platform) :=
        List.filter_eq_self.mpr hall
      rw [hkept]
      rfl

/-- A cart that can be added to, and that a list of wishes leads to. -/
def growingCart : StateGraph where
  states := [
    ("cart", { on := [("ADD", { target := "cart" })] }),
    ("wishes", { on := [("MOVE", { target := "cart", platforms := ["web"] })] })]

theorem growingCart_incoming :
    some "web" ≠ some "" ∧
      (((growingCart.index none).incoming "cart" (some "web")).filter
          (IndexEntry.startsElsewhere "cart")).map IndexEntry.edge =
        (dedupe (growingCart.incoming "cart" none (some "web"))).map edge ∧
      (dedupe (growingCart.incoming "cart" none (some "web"))).map edge =
        [("wishes", "MOVE", "cart")] :=
  ⟨by decide, (incoming_index_startsElsewhere (by decide) growingCart "cart" none).1,
    by decide +kernel⟩

theorem not_incoming_index_growingCart :
    ¬ ∀ (graph : StateGraph) (target : String) (platform : Option String), platform ≠ some "" →
      ((graph.index none).incoming target platform).map IndexEntry.edge =
        (dedupe (graph.incoming target none platform)).map edge := by
  intro hall
  exact absurd (hall growingCart "cart" none (by decide)) (by decide +kernel)

end StateGraph

/-! Platforms that are declared alike. -/

/-- The platforms that an edge is for: those that are named, or all when none is. -/
def Allows (platforms : List String) (platform : String) : Prop :=
  platforms = [] ∨ platform ∈ platforms

namespace IndexEntry

/-- The characters of a text, each a text of its own. -/
def characters (text : String) : List String :=
  text.toList.map fun c => String.ofList [c]

theorem characters_eq_nil_iff {text : String} : characters text = [] ↔ text = "" := by
  rw [characters, List.map_eq_nil_iff, String.toList_eq_nil_iff]

theorem length_of_mem_characters {text name : String} (hname : name ∈ characters text) :
    name.length = 1 := by
  obtain ⟨c, -, rfl⟩ := List.mem_map.mp hname
  rw [String.length_ofList, List.length_singleton]

theorem characters_of_length_eq_one {text : String} (hlength : text.length = 1) :
    characters text = [text] := by
  obtain ⟨c, hc⟩ := List.length_eq_one_iff.mp hlength
  rw [characters, hc, List.map_singleton, ← hc, String.ofList_toList]

/-- To an index the characters of a text alone are its platforms. -/
theorem platformNames_of_text {value : Value} {text : String} (htext : value.string? = some text) :
    platformNames value = .ok (characters text) := by
  cases value with
  | text written =>
      cases htext
      by_cases hempty : text = ""
      · subst hempty
        rfl
      · simp [platformNames, Value.truthy, hempty, characters]
  | computed kind source =>
      cases htext
      rfl
  | _ => cases htext

/-- The value is read as the names by the record of a unit. -/
def Names (value : Value) (names : List String) : Prop :=
  List.Forall₂ (fun item name => item.string? = some name) value.listOrEmpty names

theorem filterMap_string?_of_forall₂ {items : List Value} {names : List String}
    (hnames : List.Forall₂ (fun item name => item.string? = some name) items names) :
    items.filterMap Value.string? = names := by
  induction hnames with
  | nil => rfl
  | cons hitem _ ih => rw [List.filterMap_cons_some hitem, ih]

/-- What is no text is read alike by an index and by the record of a unit. -/
theorem platformNames_of_names {value : Value} {names : List String}
    (hnone : value.string? = none) (hnames : Names value names) :
    platformNames value = .ok names := by
  cases value with
  | null =>
      cases hnames
      rfl
  | list items =>
      obtain rfl := filterMap_string?_of_forall₂ hnames
      cases items <;> rfl
  | tuple items =>
      obtain rfl := filterMap_string?_of_forall₂ hnames
      cases items <;> rfl
  | text text => cases hnone
  | computed kind source => cases hnone
  | _ =>
      obtain ⟨_, _, hitem, -⟩ := List.forall₂_cons_left_iff.mp hnames
      cases hitem

/-- To the record of a unit a text alone is the name of one platform, and a marker is none. -/
theorem names_of_text {value : Value} {text : String} {names : List String}
    (htext : value.string? = some text) (hnames : Names value names) :
    names = if value.isPlaceholder then [] else [text] := by
  have hlisted : value.listOrEmpty = if value.isPlaceholder then [] else [value] := by
    cases value <;> first | rfl | cases htext
  rw [Names, hlisted] at hnames
  split
  · next hplaceholder =>
      rw [if_pos hplaceholder] at hnames
      exact List.forall₂_nil_left_iff.mp hnames
  · next hplaceholder =>
      rw [if_neg hplaceholder] at hnames
      obtain ⟨name, _, hname, hrest, rfl⟩ := List.forall₂_cons_left_iff.mp hnames
      cases hrest
      rw [Option.some.inj (htext.symm.trans hname)]

theorem not_isPlaceholder_of_short {value : Value} {text : String}
    (htext : value.string? = some text) (hshort : text.length ≤ 1) :
    ¬value.isPlaceholder = true := by
  rw [Value.isPlaceholder_iff]
  rintro ⟨kind, hkind⟩
  obtain rfl : text = kind.marker := Option.some.inj (htext.symm.trans hkind)
  exact absurd hshort (by cases kind <;> decide)

/-- A text that is not a single character is for other platforms to an index than to the record of a
unit. -/
theorem not_allows_characters {value : Value} {text : String} {names : List String}
    (htext : value.string? = some text) (hnames : Names value names) (hlength : text.length ≠ 1) :
    ∃ platform, platform ≠ "" ∧ ¬(Allows (characters text) platform ↔ Allows names platform) := by
  have hread := names_of_text htext hnames
  by_cases hempty : text = ""
  · -- An index sees no platform in it, and the record one with an empty name.
    subst hempty
    rw [if_neg (not_isPlaceholder_of_short htext (by decide))] at hread
    refine ⟨"web", by decide, ?_⟩
    rw [hread]
    simp [Allows, characters]
  · have hnamed : Allows names text := by
      rw [hread]
      split <;> simp [Allows]
    refine ⟨text, hempty, fun hsame => ?_⟩
    rcases hsame.mpr hnamed with hnone | hmem
    · exact hempty (characters_eq_nil_iff.mp hnone)
    · exact hlength (length_of_mem_characters hmem)

/-- An index and the record of a unit read a value as the same platforms exactly when it is no text,
or one of a single character. -/
theorem allows_iff {value : Value} {found names : List String}
    (hfound : platformNames value = .ok found) (hnames : Names value names) :
    (∀ platform, platform ≠ "" → (Allows found platform ↔ Allows names platform)) ↔
      ∀ text, value.string? = some text → text.length = 1 := by
  cases htext : value.string? with
  | none =>
      cases hfound.symm.trans (platformNames_of_names htext hnames)
      exact iff_of_true (fun _ _ => Iff.rfl) fun _ hnone => by cases hnone
  | some text =>
      cases hfound.symm.trans (platformNames_of_text htext)
      simp only [Option.some.injEq, forall_eq']
      constructor
      · intro halike
        by_contra hlength
        obtain ⟨platform, hplatform, hdiffer⟩ := not_allows_characters htext hnames hlength
        exact hdiffer (halike platform hplatform)
      · intro hsingle platform _
        have hname := not_isPlaceholder_of_short htext (Nat.le_of_eq hsingle)
        rw [names_of_text htext hnames, if_neg hname, characters_of_length_eq_one hsingle]

theorem reaches_iff_allows {target platform : String} (hplatform : platform ≠ "")
    {entry : IndexEntry} (hleads : StateName.denotes entry.toState target = true) :
    entry.Reaches target (some platform) ↔ Allows entry.platforms platform :=
  ⟨fun hreaches => hreaches.platform platform rfl hplatform,
    fun hallows => ⟨hleads, fun _ hname _ => Option.some.inj hname ▸ hallows⟩⟩

end IndexEntry

namespace DiscoveryIndex

/-- An entry of the index leads into the target, and no other has its key. -/
structure LeadsAlone (index : DiscoveryIndex) (target : String) (entry : IndexEntry) : Prop where
  mem : entry ∈ index
  leads : StateName.denotes entry.toState target = true
  alone : ∀ other ∈ index, other.key = entry.key → other = entry

/-- A complete object of an index and the record of an edge list the same platforms. -/
structure ListAlike (object : Entries) (declared platforms : Value) : Prop where
  complete : IndexEntry.isComplete object = true
  object : IndexEntry.listed object = platforms
  record : ∃ entries, Edge.unfolded declared = .map entries ∧ IndexEntry.listed entries = platforms

theorem exists_read?_of_listAlike {object : Entries} {declared platforms : Value} {edge : Edge}
    (halike : ListAlike object declared platforms) (hread : Edge.read declared = .value edge) :
    ∃ entry, IndexEntry.read? (.map object) = .ok (some entry) ∧
      IndexEntry.platformNames platforms = .ok entry.platforms ∧
      IndexEntry.Names platforms edge.platforms := by
  obtain ⟨entries, hentries, rfl⟩ := halike.record
  obtain ⟨found, hfound, -, hnames⟩ := Edge.parts_of_read hread
  obtain rfl : entries = found := Value.map.inj (hentries.symm.trans hfound)
  obtain ⟨found, hfound⟩ : ∃ found,
      IndexEntry.platformNames (IndexEntry.listed entries) = .ok found := by
    cases htext : (IndexEntry.listed entries).string? with
    | none => exact ⟨_, IndexEntry.platformNames_of_names htext hnames⟩
    | some text => exact ⟨_, IndexEntry.platformNames_of_text htext⟩
  obtain ⟨-, event, fromState, toState, hevent, hfrom, hto⟩ :=
    IndexEntry.complete?_eq_some_iff.mp
      (Option.filter_eq_some_iff.mpr ⟨rfl, halike.complete⟩ :
        IndexEntry.complete? (.map object) = some object)
  have hobject : IndexEntry.platformNames (.orNull (Entries.get? object "platforms")) = .ok found :=
    (congrArg IndexEntry.platformNames halike.object).trans hfound
  simp only [IndexEntry.read?, hevent, hfrom, hto, hobject]
  exact ⟨_, rfl, hfound, hnames⟩

/-- An index that lists the platforms of an edge as a unit does knows the edge on the same named
platforms as the unit exactly when they are no text, or one of a single character.  An empty name
names no platform; without one the index always knows the edge. -/
theorem platforms_alike_iff {object : Entries} {declared platforms : Value} {edge : Edge}
    (halike : ListAlike object declared platforms) (hread : Edge.read declared = .value edge) :
    ∃ entry, IndexEntry.read? (.map object) = .ok (some entry) ∧
      ∀ (index : DiscoveryIndex) (target event fromState : String) (sourcePath : Option String),
        index.LeadsAlone target entry →
        ((∀ platform, platform ≠ "" →
            (entry ∈ index.incoming target (some platform) ↔
              (Transition.ofEdge event fromState edge sourcePath).appliesTo platform = true)) ↔
          ∀ text, platforms.string? = some text → text.length = 1) ∧
        entry ∈ index.incoming target (some "") := by
  obtain ⟨entry, hentry, hfound, hnames⟩ := exists_read?_of_listAlike halike hread
  refine ⟨entry, hentry, fun index target event fromState sourcePath hleads => ⟨?_, ?_⟩⟩
  · refine Iff.trans ?_ (IndexEntry.allows_iff hfound hnames)
    refine forall_congr' fun platform => forall_congr' fun hplatform => ?_
    rw [mem_incoming_of_alone hleads.alone, and_iff_right hleads.mem,
      IndexEntry.reaches_iff_allows hplatform hleads.leads, Transition.appliesTo_iff]
    exact Iff.rfl
  · exact (mem_incoming_of_alone hleads.alone _ _).mpr
      ⟨hleads.mem, hleads.leads, fun _ hname hne => absurd (Option.some.inj hname).symm hne⟩

/-- An edge with some platforms, as an index has it. -/
def acceptObject (platforms : Value) : Entries :=
  [(.name "event", .text "ACCEPT"), (.name "from", .text "pending"), (.name "to", .text "accepted"),
    (.name "platforms", platforms)]

/-- The edge, as the state that it starts at has it. -/
def acceptRecord (platforms : Value) : Value :=
  .map [(.name "target", .text "accepted"), (.name "platforms", platforms)]

theorem acceptObject_listAlike (platforms : Value) :
    ListAlike (acceptObject platforms) (acceptRecord platforms) platforms where
  complete := rfl
  object := rfl
  record := ⟨_, rfl, rfl⟩

theorem acceptList_alike :
    ∃ entry, IndexEntry.read? (.map (acceptObject (.list [.text "web", .text "cms"]))) =
        .ok (some entry) ∧
      ∃ edge, Edge.read (acceptRecord (.list [.text "web", .text "cms"])) = .value edge ∧
        ∀ platform, platform ≠ "" →
          (entry ∈ incoming [entry] "accepted" (some platform) ↔
            (Transition.ofEdge "ACCEPT" "pending" edge none).appliesTo platform = true) := by
  have hread : Edge.read (acceptRecord (.list [.text "web", .text "cms"])) =
      .value { target := "accepted", platforms := ["web", "cms"] } := rfl
  obtain ⟨entry, hentry, halike⟩ := platforms_alike_iff (acceptObject_listAlike _) hread
  refine ⟨entry, hentry, _, hread, (halike [entry] "accepted" _ _ _ ?_).1.mpr fun _ hnone => ?_⟩
  · cases hentry
    exact ⟨List.mem_singleton_self _, by decide +kernel,
      fun other hother _ => List.mem_singleton.mp hother⟩
  · cases hnone

theorem not_acceptText_alike :
    ¬ ∀ (name platform : String) (entry : IndexEntry) (edge : Edge), platform ≠ "" →
      IndexEntry.read? (.map (acceptObject (.text name))) = .ok (some entry) →
      Edge.read (acceptRecord (.text name)) = .value edge →
      (entry ∈ incoming [entry] "accepted" (some platform) ↔
        (Transition.ofEdge "ACCEPT" "pending" edge none).appliesTo platform = true) := by
  intro hall
  have hkept := (hall "web" "web" _ _ (by decide) rfl rfl).mpr rfl
  exact List.not_mem_nil hkept

end DiscoveryIndex

end ScreenFlow
