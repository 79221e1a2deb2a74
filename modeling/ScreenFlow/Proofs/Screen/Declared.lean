import ScreenFlow.Proofs.Effect
import ScreenFlow.Proofs.Screen.Order

/-!
The screens that a unit declares for a platform.  Each definition is read as one screen, in the order
of declaration; what defines no screen is passed over.
-/

namespace ScreenFlow

namespace Screen

/-- A definition of a screen, or a list that starts with one. -/
def IsDefinition (value : Value) (definition : Entries) : Prop :=
  value = .map definition ∨ ∃ rest, value = .list (.map definition :: rest)

theorem definition?_eq_some_iff {value : Value} {definition : Entries} :
    definition? value = some definition ↔ IsDefinition value definition := by
  unfold definition? IsDefinition
  split
  · next first rest =>
      cases first <;> simp [Value.entries?]
  · next hother =>
      cases value <;> simp_all [Value.entries?]

/-- The screens read from the definitions among the entries, one for each of them. -/
inductive Declared (validationKey : String) : Entries → List Screen → Prop
  | nil : Declared validationKey [] []
  | skip {key : Key} {value : Value} {rest : Entries} {screens : List Screen} :
      (∀ definition, ¬IsDefinition value definition) → Declared validationKey rest screens →
      Declared validationKey ((key, value) :: rest) screens
  | read {key : Key} {value : Value} {definition rest : Entries} {screen : Screen}
      {screens : List Screen} :
      IsDefinition value definition → readUnder key validationKey definition = .ok screen →
      Declared validationKey rest screens →
      Declared validationKey ((key, value) :: rest) (screen :: screens)

/-- The definitions among the entries, under their keys. -/
def definitions (entries : Entries) : List (Key × Entries) :=
  entries.filterMap fun entry => (definition? entry.2).map (entry.1, ·)

theorem mapM_definitions_eq_ok_iff {validationKey : String} {entries : Entries}
    {screens : List Screen} :
    (definitions entries).mapM (fun entry => readUnder entry.1 validationKey entry.2) =
      .ok screens ↔ Declared validationKey entries screens := by
  induction entries generalizing screens with
  | nil =>
      constructor
      · rintro ⟨⟩
        exact .nil
      · rintro ⟨⟩
        rfl
  | cons entry rest ih =>
      obtain ⟨key, value⟩ := entry
      cases hdefinition : definition? value with
      | none =>
          have hnone : ∀ definition, ¬IsDefinition value definition := fun definition hfound => by
            rw [definition?_eq_some_iff.mpr hfound] at hdefinition
            cases hdefinition
          have hskip : definitions ((key, value) :: rest) = definitions rest := by
            simp [definitions, hdefinition]
          rw [hskip, ih]
          constructor
          · exact .skip hnone
          · intro hdeclared
            cases hdeclared with
            | skip _ hrest => exact hrest
            | read hfound _ _ => exact absurd hfound (hnone _)
      | some definition =>
          have hread : definitions ((key, value) :: rest) =
              (key, definition) :: definitions rest := by
            simp [definitions, hdefinition]
          rw [hread, List.mapM_cons]
          constructor
          · intro hmap
            obtain ⟨first, hfirst, hmap⟩ := exists_of_bind_eq_ok hmap
            obtain ⟨others, hothers, hmap⟩ := exists_of_bind_eq_ok hmap
            cases hmap
            exact .read (definition?_eq_some_iff.mp hdefinition) hfirst (ih.mp hothers)
          · intro hdeclared
            cases hdeclared with
            | skip hnone _ => exact absurd (definition?_eq_some_iff.mp hdefinition) (hnone _)
            | read hfound hfirst hrest =>
                rw [definition?_eq_some_iff.mpr hfound, Option.some.injEq] at hdefinition
                subst hdefinition
                rw [hfirst, ih.mpr hrest]
                rfl

/-! The platform. -/

/-- What stands for the platform: the value under its very key or, where that is missing or null, the
first value under a key that differs in case only. -/
inductive IsPlatform (ui : Entries) (validationKey : String) (value : Value) : Prop
  | exact : Entries.get? ui validationKey = some value → value ≠ .null →
      IsPlatform ui validationKey value
  | folded {key : Key} : Value.orNull (Entries.get? ui validationKey) = .null →
      ui.find? (fun entry => lowerText entry.1.text == lowerText validationKey) =
        some (key, value) →
      IsPlatform ui validationKey value

theorem platformEntries_of_isPlatform {ui : Entries} {validationKey : String} {value : Value}
    (hplatform : IsPlatform ui validationKey value) :
    platformEntries ui validationKey = value.entries?.getD [] := by
  unfold platformEntries
  cases hplatform with
  | exact hget hne =>
      rw [hget]
      cases value <;> first | rfl | exact absurd rfl hne
  | folded hnull hfind =>
      cases hget : Entries.get? ui validationKey with
      | none => simp [hfind]
      | some exact =>
          rw [hget, Value.orNull] at hnull
          simp [hnull, hfind]

theorem platformEntries_of_not_isPlatform {ui : Entries} {validationKey : String}
    (hnone : ∀ value, ¬IsPlatform ui validationKey value) :
    platformEntries ui validationKey = [] := by
  have hnull : Value.orNull (Entries.get? ui validationKey) = .null := by
    cases hget : Entries.get? ui validationKey with
    | none => rfl
    | some value =>
        by_contra hne
        exact hnone value (.exact hget hne)
  have hfind : ui.find? (fun entry => lowerText entry.1.text == lowerText validationKey) = none := by
    cases hfound : ui.find? (fun entry => lowerText entry.1.text == lowerText validationKey) with
    | none => rfl
    | some entry => exact absurd (.folded hnull hfound) (hnone entry.2)
  unfold platformEntries
  cases hget : Entries.get? ui validationKey with
  | none => simp [hfind]
  | some exact =>
      rw [hget, Value.orNull] at hnull
      simp [hnull, hfind]

/-- What the data mirrored for a unit holds for the platform. -/
def PlatformOf (mirrorsOn : List (String × Value)) (validationKey : String) (value : Value) : Prop :=
  ∃ ui, mirrorsOn.lookup "UI" = some (.map ui) ∧ IsPlatform ui validationKey value

/-- The screens of a platform are those declared for it, arranged by their orders. -/
theorem ofPlatform_eq_ok_iff {mirrorsOn : List (String × Value)} {validationKey : String}
    {value : Value} (hplatform : PlatformOf mirrorsOn validationKey value)
    (hnumbers : ∀ declared, Declared validationKey (value.entries?.getD []) declared →
      ∀ screen ∈ declared, screen.order ≠ .nan) {screens : List Screen} :
    ofPlatform (some mirrorsOn) validationKey = .ok screens ↔
      ∃ declared, Declared validationKey (value.entries?.getD []) declared ∧
        Arranged Screen.order declared screens := by
  obtain ⟨ui, hui, hplatform⟩ := hplatform
  have hsorted : ofPlatform (some mirrorsOn) validationKey =
      (definitions (value.entries?.getD [])).mapM
        (fun entry => readUnder entry.1 validationKey entry.2) >>=
          fun declared => pure (byOrder Screen.order declared) := by
    rw [← platformEntries_of_isPlatform hplatform, ofPlatform, Option.bind_some, hui]
    rfl
  rw [hsorted]
  constructor
  · intro hrun
    obtain ⟨declared, hdeclared, hrun⟩ := exists_of_bind_eq_ok hrun
    cases hrun
    have hdeclared := mapM_definitions_eq_ok_iff.mp hdeclared
    exact ⟨declared, hdeclared, byOrder_arranged (hnumbers declared hdeclared)⟩
  · rintro ⟨declared, hdeclared, harranged⟩
    rw [mapM_definitions_eq_ok_iff.mpr hdeclared,
      (arranged_iff (hnumbers declared hdeclared)).mp harranged]
    rfl

theorem ofPlatform_of_not_platformOf {mirrorsOn : List (String × Value)} {validationKey : String}
    (hnone : ∀ value, ¬PlatformOf mirrorsOn validationKey value) :
    ofPlatform (some mirrorsOn) validationKey = .ok [] := by
  cases hui : (mirrorsOn.lookup "UI").bind Value.entries? with
  | none =>
      rw [ofPlatform, Option.bind_some, hui]
      rfl
  | some ui =>
      obtain ⟨value, hlookup, hentries⟩ := Option.bind_eq_some_iff.mp hui
      have hmap : value = .map ui := by cases value <;> cases hentries; rfl
      subst hmap
      have hempty := platformEntries_of_not_isPlatform fun value hplatform =>
        hnone value ⟨ui, hlookup, hplatform⟩
      rw [ofPlatform, Option.bind_some, hui]
      simp only [hempty, List.filterMap_nil, List.mapM_nil]
      change Except.ok (byOrder Screen.order []) = _
      rw [byOrder, List.mergeSort_nil]

end Screen

end ScreenFlow
