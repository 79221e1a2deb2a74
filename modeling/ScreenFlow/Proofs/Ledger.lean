import ScreenFlow.Lowering.Ledger
import ScreenFlow.Proofs.Effect.Paired

/-!
How a ledger grows.  References are only appended, one for each class; a ledger keeps its names
apart as long as no class comes in under a name that is in use.
-/

namespace ScreenFlow

theorem Reference.instanceName_of_varName {reference : Reference} {name : String}
    (hname : name ≠ "") (hvar : reference.varName = some name) :
    reference.instanceName = name := by
  have hkept : (some name).filter (· != "") = some name := by
    simp [Option.filter, hname]
  simp only [instanceName, hvar, hkept]

namespace Ledger

theorem hasClass_iff {ledger : Ledger} {className : String} :
    ledger.hasClass className = true ↔
      ∃ known ∈ ledger.references, known.className = className := by
  simp [hasClass]

theorem hasInstance_iff {ledger : Ledger} {name : String} :
    ledger.hasInstance name = true ↔ ∃ known ∈ ledger.references, known.instanceName = name := by
  simp [hasInstance]

def SameReferences (before after : Ledger) : Prop :=
  after.references = before.references

instance : Std.Refl SameReferences where
  refl _ := rfl

instance : IsTrans Ledger SameReferences where
  trans _ _ _ hfirst hsecond := hsecond.trans hfirst

/-- Two ledgers with the same references still have the same ones when each has kept its own. -/
theorem SameReferences.of_kept (first second after last : Ledger)
    (hfirst : first.SameReferences after) (hsecond : second.SameReferences last)
    (halike : first.SameReferences second) : after.SameReferences last :=
  hsecond.trans (halike.trans hfirst.symm)

def Grows (before after : Ledger) : Prop :=
  before.references <+: after.references

instance : Std.Refl Grows where
  refl _ := List.prefix_refl _

instance : IsTrans Ledger Grows where
  trans _ _ _ hfirst hsecond := hfirst.trans hsecond

theorem Grows.hasClass {before after : Ledger} (hgrows : before.Grows after) {className : String}
    (hclass : before.hasClass className = true) : after.hasClass className = true := by
  obtain ⟨known, hknown, hname⟩ := hasClass_iff.mp hclass
  exact hasClass_iff.mpr ⟨known, hgrows.subset hknown, hname⟩

theorem Grows.hasInstance {before after : Ledger} (hgrows : before.Grows after) {name : String}
    (hinstance : before.hasInstance name = true) : after.hasInstance name = true := by
  obtain ⟨known, hknown, hname⟩ := hasInstance_iff.mp hinstance
  exact hasInstance_iff.mpr ⟨known, hgrows.subset hknown, hname⟩

theorem add_grows (ledger : Ledger) (reference : Reference) :
    ledger.Grows (ledger.add reference) := by
  unfold add
  split
  · exact refl_of Grows ledger
  · exact List.prefix_append _ _

/-- What adding does to the references does not depend on the rest of the ledger. -/
theorem SameReferences.add {first second : Ledger} (hsame : first.SameReferences second)
    (reference : Reference) :
    (first.add reference).SameReferences (second.add reference) := by
  have hclass : second.hasClass reference.className = first.hasClass reference.className := by
    unfold hasClass
    rw [hsame]
  unfold SameReferences Ledger.add
  rw [hclass]
  split
  · exact hsame
  · exact congrArg (· ++ [reference]) hsame

/-! Adding references in order. -/

def addAll (ledger : Ledger) (references : List Reference) : Ledger :=
  references.foldl add ledger

theorem addAll_append (ledger : Ledger) (first second : List Reference) :
    ledger.addAll (first ++ second) = (ledger.addAll first).addAll second :=
  List.foldl_append

theorem addAll_grows (ledger : Ledger) (references : List Reference) :
    ledger.Grows (ledger.addAll references) := by
  induction references generalizing ledger with
  | nil => exact refl_of Grows ledger
  | cons reference rest ih =>
      exact trans_of Grows (add_grows ledger reference) (ih (ledger.add reference))

theorem hasClass_addAll {references : List Reference} {reference : Reference}
    (hmem : reference ∈ references) (ledger : Ledger) :
    (ledger.addAll references).hasClass reference.className = true := by
  induction references generalizing ledger with
  | nil => cases hmem
  | cons head rest ih =>
      rcases List.mem_cons.mp hmem with rfl | hrest
      · exact (addAll_grows (ledger.add reference) rest).hasClass (hasClass_add ledger reference)
      · exact ih hrest (ledger.add head)

theorem SameReferences.addAll {first second : Ledger} (hsame : first.SameReferences second)
    (references : List Reference) :
    (first.addAll references).SameReferences (second.addAll references) := by
  induction references generalizing first second with
  | nil => exact hsame
  | cons reference rest ih => exact ih (hsame.add reference)

/-! Names of the objects that a ledger makes available. -/

def DistinctNames (ledger : Ledger) : Prop :=
  (ledger.references.map Reference.instanceName).Nodup

instance (ledger : Ledger) : Decidable ledger.DistinctNames :=
  inferInstanceAs (Decidable (List.Nodup _))

theorem DistinctNames.of_grows {before after : Ledger} (hdistinct : after.DistinctNames)
    (hgrows : before.Grows after) : before.DistinctNames :=
  List.Nodup.sublist (hgrows.sublist.map Reference.instanceName) hdistinct

theorem SameReferences.distinctNames_iff {first second : Ledger}
    (hsame : first.SameReferences second) : second.DistinctNames ↔ first.DistinctNames := by
  unfold DistinctNames
  rw [hsame]

/-- The class of the reference is known, so that the reference is left out, or its name is free. -/
def Fits (ledger : Ledger) (reference : Reference) : Prop :=
  ledger.hasClass reference.className = true ∨
    ledger.hasInstance reference.instanceName = false

instance (ledger : Ledger) (reference : Reference) : Decidable (ledger.Fits reference) :=
  inferInstanceAs (Decidable (_ ∨ _))

theorem add_distinctNames_iff {ledger : Ledger} (hdistinct : ledger.DistinctNames)
    (reference : Reference) :
    (ledger.add reference).DistinctNames ↔ ledger.Fits reference := by
  unfold Fits add
  by_cases hclass : ledger.hasClass reference.className = true
  · simp [hclass, hdistinct]
  · have hfree : ledger.hasInstance reference.instanceName = false ↔
        ∀ name ∈ ledger.references.map Reference.instanceName, name ≠ reference.instanceName := by
      rw [← Bool.not_eq_true, hasInstance_iff]
      simp
    simp only [hclass, Bool.false_eq_true, if_false, false_or, hfree, DistinctNames,
      List.map_append, List.map_cons, List.map_nil, List.nodup_append, List.mem_singleton,
      forall_eq]
    constructor
    · exact fun hall => hall.2.2
    · exact fun hother => ⟨hdistinct, by simp, hother⟩

/-- Each reference fits when its turn comes. -/
def FitsAll : Ledger → List Reference → Prop
  | _, [] => True
  | ledger, reference :: rest => ledger.Fits reference ∧ (ledger.add reference).FitsAll rest

theorem addAll_distinctNames_iff {ledger : Ledger} (hdistinct : ledger.DistinctNames)
    (references : List Reference) :
    (ledger.addAll references).DistinctNames ↔ ledger.FitsAll references := by
  induction references generalizing ledger with
  | nil => exact iff_of_true hdistinct trivial
  | cons reference rest ih =>
      constructor
      · intro hall
        have hadd := hall.of_grows (addAll_grows (ledger.add reference) rest)
        exact ⟨(add_distinctNames_iff hdistinct reference).mp hadd, (ih hadd).mp hall⟩
      · rintro ⟨hfits, hrest⟩
        exact (ih ((add_distinctNames_iff hdistinct reference).mpr hfits)).mpr hrest

end Ledger

namespace Compile

open Effect

theorem degrade_total (record : Degradation) : Total Ledger.SameReferences (degrade record) :=
  .modify fun _ => rfl

theorem run_register_option (reference : Option Reference) (ledger : Ledger) :
    (reference.forM register : Effect Ledger PUnit).run.run ledger =
      (.ok ⟨⟩, ledger.addAll reference.toList) := by
  cases reference <;> rfl

theorem run_register_all (references : List Reference) (ledger : Ledger) :
    (references.forM register : Effect Ledger PUnit).run.run ledger =
      (.ok ⟨⟩, ledger.addAll references) :=
  run_forM_modify (fun (reference : Reference) (ledger : Ledger) => ledger.add reference)
    references ledger

end Compile

end ScreenFlow
