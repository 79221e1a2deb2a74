import Mathlib.Data.List.Forall2
import ScreenFlow.Project.Incoming
import ScreenFlow.Proofs.Effect
import ScreenFlow.Proofs.Schema.Values

/-!
The index as it is read from outside: one entry for each object that has an event and both ends.
Platforms that cannot be gone through stop the reading, and a file that is no text stops the use of
an entry.

The entries of the index that lead into a state.  No two of them are the same edge; of each edge it
is the first entry that leads there, whatever entries for other states or platforms come before it.
-/

namespace ScreenFlow

/-! Reading the index. -/

namespace Value

/-- Platform names can be looked for in the value: it counts as false, or is a collection or a
text. -/
def holdsNames (value : Value) : Bool :=
  !value.truthy || value.items?.isSome || value.isMap || value.isString

end Value

namespace IndexEntry

theorem platformNames_isOk (value : Value) : (platformNames value).isOk = value.holdsNames := by
  unfold platformNames Value.holdsNames
  cases htruthy : value.truthy with
  | false => rfl
  | true => cases value <;> rfl

theorem platformNames_of_items? {value : Value} {items : List Value} {platforms : List String}
    (hitems : value.items? = some items) (hplatforms : platformNames value = .ok platforms) :
    platforms = items.filterMap Value.string? := by
  unfold platformNames at hplatforms
  split at hplatforms
  · next hfalsy =>
      cases hplatforms
      cases value <;> cases hitems <;> cases items <;> simp_all [Value.truthy]
  · cases value <;> cases hitems <;> cases hplatforms <;> rfl

/-- The object has a text under the key, and it is not empty. -/
def HasName (object : Entries) (key name : String) : Prop :=
  ∃ value, Entries.get? object key = some value ∧ value.string? = some name ∧ name ≠ ""

theorem name?_eq_some_iff {object : Entries} {key name : String} :
    name? object key = some name ↔ HasName object key name := by
  simp only [name?, HasName, Option.filter_eq_some_iff, Option.bind_eq_some_iff, bne_iff_ne]
  grind

/-- The object has an event and both ends. -/
def isComplete (object : Entries) : Bool :=
  ["event", "from", "to"].all fun key => (name? object key).isSome

/-- The platforms that the object lists. -/
def listed (object : Entries) : Value :=
  .orNull (Entries.get? object "platforms")

/-- The entry tells what the object does.  Of a list of platforms it has those that are texts. -/
structure Tells (object : Entries) (entry : IndexEntry) : Prop where
  event : HasName object "event" entry.event
  fromState : HasName object "from" entry.fromState
  toState : HasName object "to" entry.toState
  platforms : ∀ items, (listed object).items? = some items →
    entry.platforms = items.filterMap Value.string?
  sourceFile : entry.sourceFile = firstTruthy (.orNull (Entries.get? object "file"))
    (.orNull (Entries.get? object "sourceFile"))

/-- The object that a value gives an entry for. -/
def complete? (value : Value) : Option Entries :=
  value.entries?.filter isComplete

theorem complete?_eq_some_iff {value : Value} {object : Entries} :
    complete? value = some object ↔ value = .map object ∧ ∃ event fromState toState,
      name? object "event" = some event ∧ name? object "from" = some fromState ∧
        name? object "to" = some toState := by
  rw [complete?, Option.filter_eq_some_iff]
  refine and_congr ?_ ?_
  · cases value <;> simp [Value.entries?]
  · simp [isComplete, Option.isSome_iff_exists]

/-- A value that gives no entry is passed over. -/
theorem read?_of_none {value : Value} (hnone : complete? value = none) :
    read? value = .ok none := by
  unfold read?
  split
  · next object =>
      split
      · next event fromState toState hevent hfrom hto =>
          rw [complete?_eq_some_iff.mpr ⟨rfl, event, fromState, toState, hevent, hfrom, hto⟩]
            at hnone
          cases hnone
      · rfl
  · rfl

/-- A value that gives an entry is read exactly when platform names can be looked for in it. -/
theorem read?_of_some {value : Value} {object : Entries} (hsome : complete? value = some object) :
    (read? value).isOk = (listed object).holdsNames ∧
      ∀ found, read? value = .ok found → ∃ entry, found = some entry ∧ Tells object entry := by
  obtain ⟨rfl, event, fromState, toState, hevent, hfrom, hto⟩ := complete?_eq_some_iff.mp hsome
  simp only [read?, hevent, hfrom, hto]
  refine ⟨(isOk_bind_pure _ _).trans (platformNames_isOk _), fun found hread => ?_⟩
  obtain ⟨platforms, hplatforms, hread⟩ := exists_of_bind_eq_ok hread
  cases hread
  exact ⟨_, rfl, name?_eq_some_iff.mp hevent, name?_eq_some_iff.mp hfrom,
    name?_eq_some_iff.mp hto, fun items hitems => platformNames_of_items? hitems hplatforms, rfl⟩

/-- The file of an entry can be used when it is a text, or there is none. -/
theorem toTransition_isOk_iff (entry : IndexEntry) :
    entry.toTransition.isOk = true ↔
      entry.sourceFile = .null ∨ entry.sourceFile.isString = true := by
  unfold toTransition
  constructor
  · intro hok
    split at hok
    · next path hpath =>
        cases path with
        | none => exact .inl (Schema.optionalString_eq_none_iff.mp hpath)
        | some path =>
            exact .inr (Option.isSome_of_eq_some (Schema.optionalString_eq_some_iff.mp hpath))
    · cases hok
  · rintro (hnull | hstring)
    · rw [Schema.optionalString_eq_none_iff.mpr hnull]
      rfl
    · obtain ⟨path, hpath⟩ := Option.isSome_iff_exists.mp hstring
      rw [Schema.optionalString_eq_some_iff.mpr hpath]
      rfl

theorem sourceOf_isOk {entry : IndexEntry}
    (hfile : entry.sourceFile = .null ∨ entry.sourceFile.isString = true) (root : Path) :
    (Incoming.sourceOf root entry).isOk = true := by
  unfold Incoming.sourceOf
  rcases hfile with hnull | hstring
  · rw [hnull]
    rfl
  · obtain ⟨path, hpath⟩ := Option.isSome_iff_exists.mp hstring
    rw [hpath]
    split <;> rfl

end IndexEntry

namespace DiscoveryIndex

/-- The values that are listed as transitions. -/
def listedValues : Value → List Value
  | .map entries =>
      match Entries.get? entries "transitions" with
      | some (.list items) => items
      | _ => []
  | _ => []

/-- The objects that the index has entries for. -/
def completeObjects (data : Value) : List Entries :=
  (listedValues data).filterMap IndexEntry.complete?

theorem read_eq (data : Value) :
    read data =
      (fun found => found.filterMap id) <$> (listedValues data).mapM IndexEntry.read? := by
  cases data with
  | map entries =>
      simp only [read, listedValues]
      cases Entries.get? entries "transitions" with
      | none => rfl
      | some value => cases value <;> rfl
  | _ => rfl

theorem forall₂_tells {values : List Value} {found : List (Option IndexEntry)}
    (hread : List.Forall₂ (fun value entry => IndexEntry.read? value = .ok entry) values found) :
    List.Forall₂ IndexEntry.Tells (values.filterMap IndexEntry.complete?)
      (found.filterMap id) := by
  induction hread with
  | nil => exact .nil
  | @cons value entry values found hvalue _ ih =>
      cases hcomplete : IndexEntry.complete? value with
      | none =>
          rw [IndexEntry.read?_of_none hcomplete] at hvalue
          cases hvalue
          rwa [List.filterMap_cons_none hcomplete, List.filterMap_cons_none rfl]
      | some object =>
          obtain ⟨entry, rfl, htells⟩ := (IndexEntry.read?_of_some hcomplete).2 _ hvalue
          rw [List.filterMap_cons_some hcomplete, List.filterMap_cons_some (f := id) rfl]
          exact .cons htells ih

theorem read?_isOk_iff (value : Value) :
    (IndexEntry.read? value).isOk = true ↔
      ∀ object, IndexEntry.complete? value = some object →
        (IndexEntry.listed object).holdsNames = true := by
  cases hcomplete : IndexEntry.complete? value with
  | none =>
      rw [IndexEntry.read?_of_none hcomplete]
      exact iff_of_true rfl fun _ hnone => by cases hnone
  | some object =>
      rw [(IndexEntry.read?_of_some hcomplete).1]
      simp

theorem exists_read_iff (data : Value) :
    (∃ index, read data = .ok index) ↔
      ∀ object ∈ completeObjects data, (IndexEntry.listed object).holdsNames = true := by
  have hread : (∃ index, read data = .ok index) ↔
      ((listedValues data).mapM IndexEntry.read?).isOk = true := by
    rw [read_eq]
    cases (listedValues data).mapM IndexEntry.read? with
    | error failure => exact iff_of_false (fun ⟨_, hnone⟩ => by cases hnone) Bool.false_ne_true
    | ok found => exact iff_of_true ⟨_, rfl⟩ rfl
  rw [hread, isOk_mapM, List.all_eq_true]
  simp only [read?_isOk_iff, completeObjects, List.mem_filterMap]
  exact ⟨fun hall object ⟨value, hvalue, hcomplete⟩ => hall value hvalue object hcomplete,
    fun hall value hvalue object hcomplete => hall object ⟨value, hvalue, hcomplete⟩⟩

/-- The index is read exactly when platform names can be looked for in each object that has an
event and both ends; it has one entry for each of them, in their order.  An entry can be used
exactly when its file is a text or missing. -/
theorem read_entries_iff (data : Value) :
    ((∃ index, read data = .ok index) ↔
      ∀ object ∈ completeObjects data, (IndexEntry.listed object).holdsNames = true) ∧
    ∀ index, read data = .ok index →
      List.Forall₂ IndexEntry.Tells (completeObjects data) index ∧
      ∀ entry ∈ index,
        ((∀ root, (Incoming.sourceOf root entry).isOk = true) ∧ entry.toTransition.isOk = true) ↔
          entry.sourceFile = .null ∨ entry.sourceFile.isString = true := by
  refine ⟨exists_read_iff data, fun index hread => ⟨?_, fun entry _ => ?_⟩⟩
  · rw [read_eq] at hread
    cases hfound : (listedValues data).mapM IndexEntry.read? with
    | error failure =>
        rw [hfound] at hread
        cases hread
    | ok found =>
        rw [hfound] at hread
        cases hread
        exact forall₂_tells (forall₂_of_mapM_eq_ok hfound)
  · exact ⟨fun hused => entry.toTransition_isOk_iff.mp hused.2, fun hfile =>
      ⟨IndexEntry.sourceOf_isOk hfile, entry.toTransition_isOk_iff.mpr hfile⟩⟩

/-- The data of an index with one object; its platforms and its file are not checked. -/
def acceptData (platforms file : Value) : Value :=
  .map [(.name "transitions", .list [.text "x", .map [
    (.name "from", .text "pending"), (.name "event", .text "ACCEPT"),
    (.name "to", .text "accepted"), (.name "platforms", platforms), (.name "file", file)]])]

theorem acceptData_entry :
    ∃ entry, read (acceptData (.list [.text "web", .int 5]) (.text "a.json")) = .ok [entry] ∧
      entry.platforms = ["web"] ∧ entry.toTransition.isOk = true := by
  obtain ⟨hread, hentries⟩ :=
    read_entries_iff (acceptData (.list [.text "web", .int 5]) (.text "a.json"))
  obtain ⟨index, hindex⟩ := hread.mpr (by decide)
  obtain ⟨hall, huse⟩ := hentries index hindex
  obtain ⟨entry, rest, htells, hrest, rfl⟩ := List.forall₂_cons_left_iff.mp hall
  cases hrest
  refine ⟨entry, hindex, htells.platforms _ rfl, ?_⟩
  exact ((huse entry (List.mem_singleton_self _)).mpr (.inr (by rw [htells.sourceFile]; rfl))).2

theorem not_read_numberedPlatforms : ¬ ∃ index, read (acceptData (.int 5) .null) = .ok index := by
  rintro ⟨index, hindex⟩
  cases hindex

end DiscoveryIndex

/-! Entries that lead into a state. -/

theorem Transition.appliesTo_iff {transition : Transition} {platform : String} :
    transition.appliesTo platform = true ↔
      transition.platforms = [] ∨ platform ∈ transition.platforms := by
  rw [Transition.appliesTo, Bool.or_eq_true_iff, List.isEmpty_iff, List.contains_iff_mem]

namespace IndexEntry

/-- The entry leads into the target, and can be used on the platform if one is named; an empty name
names none. -/
structure Reaches (target : String) (platform : Option String) (entry : IndexEntry) : Prop where
  target : StateName.denotes entry.toState target = true
  platform : ∀ name, platform = some name → name ≠ "" →
    entry.platforms = [] ∨ name ∈ entry.platforms

theorem leadsInto_iff {target : String} {platform : Option String} {entry : IndexEntry} :
    entry.leadsInto target platform = true ↔ entry.Reaches target platform := by
  suffices hsame : entry.leadsInto target platform = true ↔
      StateName.denotes entry.toState target = true ∧
        ∀ name, platform = some name → name ≠ "" →
          entry.platforms = [] ∨ name ∈ entry.platforms from
    hsame.trans ⟨fun h => ⟨h.1, h.2⟩, fun h => ⟨h.target, h.platform⟩⟩
  cases platform with
  | none => simp [leadsInto]
  | some name => by_cases hname : name = "" <;> simp [leadsInto, Option.filter, hname]

instance (target : String) (platform : Option String) (entry : IndexEntry) :
    Decidable (entry.Reaches target platform) :=
  decidable_of_iff _ leadsInto_iff

end IndexEntry

namespace DiscoveryIndex

theorem key_notMem_of_mem_dedupe {seen : List (String × String)} {index : DiscoveryIndex}
    {entry : IndexEntry} (hmem : entry ∈ dedupe seen index) : entry.key ∉ seen := by
  induction index generalizing seen with
  | nil => cases hmem
  | cons first rest ih =>
      unfold dedupe at hmem
      split at hmem
      · exact ih hmem
      · next hseen =>
          rcases List.mem_cons.mp hmem with rfl | hmem
          · simpa using hseen
          · exact fun hkey => ih hmem (List.mem_cons_of_mem _ hkey)

theorem dedupe_keys_nodup (seen : List (String × String)) (index : DiscoveryIndex) :
    ((dedupe seen index).map IndexEntry.key).Nodup := by
  induction index generalizing seen with
  | nil => exact List.nodup_nil
  | cons first rest ih =>
      unfold dedupe
      split
      · exact ih seen
      · refine List.nodup_cons.mpr ⟨fun hkey => ?_, ih _⟩
        obtain ⟨entry, hmem, hsame⟩ := List.mem_map.mp hkey
        exact key_notMem_of_mem_dedupe hmem (hsame ▸ List.mem_cons_self)

/-- An entry that no other has the key of is kept, unless its key has been seen. -/
theorem mem_dedupe_of_alone {seen : List (String × String)} {index : DiscoveryIndex}
    {entry : IndexEntry} (halone : ∀ other ∈ index, other.key = entry.key → other = entry)
    (hkey : entry.key ∉ seen) : entry ∈ dedupe seen index ↔ entry ∈ index := by
  induction index generalizing seen with
  | nil => exact Iff.rfl
  | cons first rest ih =>
      obtain ⟨hfirst, hrest⟩ := List.forall_mem_cons.mp halone
      unfold dedupe
      split
      · next hseen =>
          have hne : entry ≠ first := by
            rintro rfl
            exact hkey (List.contains_iff_mem.mp hseen)
          rw [ih hrest hkey, List.mem_cons, or_iff_right hne]
      · rw [List.mem_cons, List.mem_cons]
        by_cases hsame : first.key = entry.key
        · exact iff_of_true (.inl (hfirst hsame).symm) (.inl (hfirst hsame).symm)
        · exact or_congr_right (ih hrest (by simp [Ne.symm hsame, hkey]))

theorem mem_incoming_of_alone {index : DiscoveryIndex} {entry : IndexEntry}
    (halone : ∀ other ∈ index, other.key = entry.key → other = entry) (target : String)
    (platform : Option String) :
    entry ∈ index.incoming target platform ↔ entry ∈ index ∧ entry.Reaches target platform := by
  rw [incoming, mem_dedupe_of_alone (fun other hmem => halone other (List.mem_of_mem_filter hmem))
    List.not_mem_nil, List.mem_filter, IndexEntry.leadsInto_iff]

theorem incoming_keys_nodup (index : DiscoveryIndex) (target : String)
    (platform : Option String) : ((index.incoming target platform).map IndexEntry.key).Nodup :=
  dedupe_keys_nodup [] _

/-! Which entries are kept. -/

/-- The entry in a place reaches the target, and no entry of its key before it does. -/
structure FirstAt (index : DiscoveryIndex) (target : String) (platform : Option String)
    (place : Nat) (entry : IndexEntry) : Prop where
  holds : index[place]? = some entry
  reaches : entry.Reaches target platform
  first : ∀ earlier < place, ∀ other, index[earlier]? = some other →
    other.Reaches target platform → other.key ≠ entry.key

/-- In the places, in their order, the index holds the entries. -/
def HoldsAt (index : DiscoveryIndex) (places : List Nat) (entries : DiscoveryIndex) : Prop :=
  List.Forall₂ (fun place entry => index[place]? = some entry) places entries

theorem HoldsAt.cons {index : DiscoveryIndex} {places : List Nat} {entries : DiscoveryIndex}
    (hholds : index.HoldsAt places entries) (first : IndexEntry) :
    HoldsAt (first :: index) (places.map (· + 1)) entries := by
  refine List.forall₂_map_left_iff.mpr (hholds.imp fun place entry hentry => ?_)
  rwa [List.getElem?_cons_succ]

variable {target : String} {platform : Option String}

/-- Behind an entry, those come first that do so in the rest of the index, unless the entry in front
is of their key. -/
theorem firstAt_cons_succ {first entry : IndexEntry} {rest : DiscoveryIndex} {place : Nat} :
    FirstAt (first :: rest) target platform (place + 1) entry ↔
      FirstAt rest target platform place entry ∧
        (first.Reaches target platform → first.key ≠ entry.key) := by
  constructor
  · rintro ⟨hholds, hreaches, hfirst⟩
    rw [List.getElem?_cons_succ] at hholds
    refine ⟨⟨hholds, hreaches, fun earlier hlt other hother => ?_⟩, hfirst 0 (by omega) first rfl⟩
    exact hfirst (earlier + 1) (by omega) other (by rwa [List.getElem?_cons_succ])
  · rintro ⟨⟨hholds, hreaches, hfirst⟩, hfront⟩
    refine ⟨by rwa [List.getElem?_cons_succ], hreaches, fun earlier hlt other hother => ?_⟩
    cases earlier with
    | zero =>
        rw [List.getElem?_cons_zero, Option.some.injEq] at hother
        exact hother ▸ hfront
    | succ earlier =>
        rw [List.getElem?_cons_succ] at hother
        exact hfirst earlier (by omega) other hother

theorem firstAt_cons_zero {first entry : IndexEntry} {rest : DiscoveryIndex} :
    FirstAt (first :: rest) target platform 0 entry ↔
      first = entry ∧ first.Reaches target platform := by
  constructor
  · rintro ⟨hholds, hreaches, -⟩
    rw [List.getElem?_cons_zero, Option.some.injEq] at hholds
    exact ⟨hholds, hholds ▸ hreaches⟩
  · rintro ⟨rfl, hreaches⟩
    exact ⟨rfl, hreaches, fun _ hlt => absurd hlt (Nat.not_lt_zero _)⟩

/-- One step of going through the index. -/
theorem dedupe_filter_cons (seen : List (String × String)) (first : IndexEntry)
    (rest : DiscoveryIndex) :
    dedupe seen ((first :: rest).filter (IndexEntry.leadsInto target platform)) =
      if first.Reaches target platform ∧ first.key ∉ seen then
        first :: dedupe (first.key :: seen) (rest.filter (IndexEntry.leadsInto target platform))
      else dedupe seen (rest.filter (IndexEntry.leadsInto target platform)) := by
  by_cases hreaches : first.Reaches target platform
  · rw [List.filter_cons_of_pos (IndexEntry.leadsInto_iff.mpr hreaches)]
    conv => lhs; unfold dedupe
    by_cases hseen : first.key ∈ seen <;> simp [hreaches, hseen]
  · rw [List.filter_cons_of_neg (hreaches ∘ IndexEntry.leadsInto_iff.mp),
      if_neg fun h => hreaches h.1]

/-- What is kept of an index after some keys have been seen: the first entries of all other keys. -/
theorem dedupe_filter_holdsAt (target : String) (platform : Option String)
    (seen : List (String × String)) (index : DiscoveryIndex) :
    ∃ places : List Nat, places.Pairwise (· < ·) ∧
      (∀ place, place ∈ places ↔
        ∃ entry, index.FirstAt target platform place entry ∧ entry.key ∉ seen) ∧
      index.HoldsAt places
        (dedupe seen (index.filter (IndexEntry.leadsInto target platform))) := by
  -- A step puts the key in front among the seen ones just when the entry in front hides the others
  -- of its key.
  induction index generalizing seen with
  | nil =>
      refine ⟨[], List.Pairwise.nil, fun place => iff_of_false List.not_mem_nil ?_,
        List.Forall₂.nil⟩
      rintro ⟨entry, hentry, -⟩
      cases hentry.holds
  | cons first rest ih =>
      have hstep : ∀ {later : List (String × String)} {places : List Nat},
          (∀ place, place ∈ places ↔
            ∃ entry, FirstAt rest target platform place entry ∧ entry.key ∉ later) →
          (∀ key, key ∉ later ↔ (first.Reaches target platform → first.key ≠ key) ∧ key ∉ seen) →
          ∀ place, place ∈ places ↔
            ∃ entry, FirstAt (first :: rest) target platform (place + 1) entry ∧
              entry.key ∉ seen := by
        intro later places hplaces hlater place
        simp only [hplaces, hlater, firstAt_cons_succ, and_assoc]
      rw [dedupe_filter_cons]
      split
      · next hkept =>
          obtain ⟨places, hsorted, hplaces, hholds⟩ := ih (first.key :: seen)
          have hmem := hstep hplaces fun key => by simp [hkept.1, eq_comm]
          refine ⟨0 :: places.map (· + 1), List.pairwise_cons.mpr ⟨by simp, ?_⟩, fun place => ?_,
            List.Forall₂.cons rfl (hholds.cons first)⟩
          · exact List.pairwise_map.mpr (hsorted.imp Nat.succ_lt_succ)
          · cases place with
            | zero => simpa [firstAt_cons_zero] using hkept
            | succ place => simpa using hmem place
      · next hkept =>
          obtain ⟨places, hsorted, hplaces, hholds⟩ := ih seen
          have hmem := hstep hplaces fun key => (and_iff_right_of_imp fun hkey hreaches heq =>
            hkept ⟨hreaches, (heq : first.key = key) ▸ hkey⟩).symm
          refine ⟨places.map (· + 1), List.pairwise_map.mpr (hsorted.imp Nat.succ_lt_succ),
            fun place => ?_, hholds.cons first⟩
          cases place with
          | zero => simpa [firstAt_cons_zero] using hkept
          | succ place => simpa using hmem place

/-- The entries into a state are the first of each key among those that reach it, in the order of
the index; entries that do not reach it make no difference. -/
theorem incoming_holds_first (index : DiscoveryIndex) (target : String)
    (platform : Option String) :
    (∃ places : List Nat, places.Pairwise (· < ·) ∧
        (∀ place, place ∈ places ↔ ∃ entry, index.FirstAt target platform place entry) ∧
        index.HoldsAt places (index.incoming target platform)) ∧
      incoming (index.filter fun entry => entry.Reaches target platform) target platform =
        index.incoming target platform := by
  constructor
  · obtain ⟨places, hsorted, hplaces, hholds⟩ :=
      dedupe_filter_holdsAt target platform [] index
    exact ⟨places, hsorted, fun place => by simpa using hplaces place, hholds⟩
  · unfold incoming
    rw [List.filter_filter]
    congr 1
    refine List.filter_congr fun entry _ => ?_
    rw [Bool.eq_iff_iff, Bool.and_eq_true, decide_eq_true_iff, IndexEntry.leadsInto_iff,
      and_self_iff]

end DiscoveryIndex

end ScreenFlow
