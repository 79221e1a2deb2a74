import ScreenFlow.Proofs.Scope.Chain
import ScreenFlow.Proofs.Script.Quoted
import ScreenFlow.Proofs.Text.Blank
import ScreenFlow.Scope.Resolve

/-!
Written and read under one name.  A step or a block stores under the name as it is; a reference to
the name trims it, passes over it when it is an expression already, and takes its accesses apart.
-/

namespace ScreenFlow

namespace Segment

/-! Names between braces. -/

/-- The text that refers to the name. -/
def referenceTo (name : List Char) : List Char :=
  '\x7b' :: '\x7b' :: name ++ ['\x7d', '\x7d']

theorem referenceTo_injective : Function.Injective referenceTo := by
  intro first second heq
  simpa [referenceTo] using heq

theorem reference?_referenceTo {between : List Char} (hne : between ≠ [])
    (hbraces : ∀ c ∈ between, isBrace c = false) (after : List Char) :
    reference? (referenceTo between ++ after) = some (nameOf between, after) := by
  have hall : ∀ c ∈ between, (!isBrace c) = true := by simpa using hbraces
  have hclose : (between ++ '\x7d' :: '\x7d' :: after).dropWhile (fun c => !isBrace c) =
      '\x7d' :: '\x7d' :: after := by
    rw [List.dropWhile_append_of_pos hall]
    rfl
  have hinner : inner (between ++ '\x7d' :: '\x7d' :: after) = between := by
    unfold inner
    rw [List.takeWhile_append_of_pos hall]
    simp [isBrace]
  have hfilled : between.isEmpty = false := by simpa using hne
  have hshape : referenceTo between ++ after =
      '\x7b' :: '\x7b' :: (between ++ '\x7d' :: '\x7d' :: after) := by simp [referenceTo]
  rw [hshape]
  simp only [reference?, hclose, hinner, hfilled, Bool.false_eq_true, if_false]

theorem exists_of_reference? {text name after : List Char}
    (hfound : reference? text = some (name, after)) :
    ∃ between, text = referenceTo between ++ after ∧ between ≠ [] ∧
      (∀ c ∈ between, isBrace c = false) ∧ name = nameOf between := by
  unfold reference? at hfound
  split at hfound
  · next rest =>
      split at hfound
      · next close hclose =>
          split at hfound
          · cases hfound
          · next hfilled =>
              simp only [Option.some.injEq, Prod.mk.injEq] at hfound
              obtain ⟨rfl, rfl⟩ := hfound
              refine ⟨inner rest, ?_, by simpa using hfilled, ?_, rfl⟩
              · have hsplit := List.takeWhile_append_dropWhile (p := fun c => !isBrace c)
                  (l := rest)
                rw [hclose] at hsplit
                simp only [referenceTo, inner, List.cons_append, List.append_assoc,
                  List.nil_append, hsplit]
              · intro c hmem
                simpa using List.mem_takeWhile_imp hmem
      · cases hfound
  · cases hfound

theorem whole?_referenceTo {name : List Char} (hne : name ≠ [])
    (hbraces : ∀ c ∈ name, isBrace c = false) :
    whole? (referenceTo name) = some (nameOf name) := by
  have hfound := reference?_referenceTo hne hbraces []
  rw [List.append_nil] at hfound
  rw [whole?, hfound]

theorem exists_of_whole? {text name : List Char} (hwhole : whole? text = some name) :
    ∃ between, text = referenceTo between ∧ between ≠ [] ∧
      (∀ c ∈ between, isBrace c = false) ∧ name = nameOf between := by
  unfold whole? at hwhole
  split at hwhole
  · next found hfound =>
      obtain ⟨between, htext, hne, hbraces, hname⟩ := exists_of_reference? hfound
      cases hwhole
      exact ⟨between, by rw [htext, List.append_nil], hne, hbraces, hname⟩
  · cases hwhole

theorem not_isBrace_of_whole?_referenceTo {name found : List Char}
    (hwhole : whole? (referenceTo name) = some found) : ∀ c ∈ name, isBrace c = false := by
  obtain ⟨between, htext, -, hbraces, -⟩ := exists_of_whole? hwhole
  rw [referenceTo_injective htext]
  exact hbraces

@[simp] theorem trim_nameOf (between : List Char) :
    Text.trim (nameOf between) = Text.trim between := by
  unfold nameOf
  split
  · next hblank =>
      have hall : ∀ c ∈ between, Text.isBlank c = true := by
        simpa [Text.trimLeft] using hblank
      have hrest : Text.trimLeft (between.drop (between.length - 1)) = [] :=
        List.dropWhile_eq_nil_iff.mpr fun c hc => hall c (List.mem_of_mem_drop hc)
      rw [Text.trim_eq_nil_of_trimLeft hrest, Text.trim_eq_nil_of_trimLeft hblank]
  · exact Text.trim_trim between

theorem trim_referenceTo (name : List Char) : Text.trim (referenceTo name) = referenceTo name := by
  apply Text.trim_eq_self
  · intro c hhead
    cases hhead
    decide
  · intro hne
    simp [referenceTo]
    decide

end Segment

namespace Scope

open Segment

/-- The value that is a reference to the name and nothing else. -/
def inBraces (name : String) : Value :=
  .text (String.ofList (referenceTo name.toList))

/-! What the value resolves to. -/

theorem resolveReference_trimmed (scope : Scope) {first second : String}
    (htrim : trimmed first = trimmed second) :
    scope.resolveReference first = scope.resolveReference second := by
  unfold resolveReference
  rw [htrim]

theorem ofMarker?_referenceTo (name : List Char) :
    Placeholder.ofMarker? (String.ofList (referenceTo name)) = none := by
  apply List.find?_eq_none.mpr
  intro kind _ hmarker
  have hchars := congrArg String.toList (beq_iff_eq.mp hmarker)
  cases kind <;> simp [Placeholder.marker, referenceTo] at hchars

theorem resolve_inBraces_eq_resolveText (scope : Scope) (name : String) :
    scope.resolve (inBraces name) =
      scope.resolveText (String.ofList (referenceTo name.toList)) := by
  simp only [inBraces, resolve, ofMarker?_referenceTo, Option.isSome_none, Bool.false_eq_true,
    if_false]

/-- Without braces in it, the name is looked up. -/
theorem resolve_inBraces (scope : Scope) {name : String} (hne : name ≠ "")
    (hbraces : ∀ c ∈ name.toList, isBrace c = false) :
    scope.resolve (inBraces name) = scope.resolveReference name := by
  have hchars : name.toList ≠ [] := by simpa using hne
  rw [resolve_inBraces_eq_resolveText]
  unfold resolveText
  simp only [toList_trimmed, String.toList_ofList, trim_referenceTo,
    whole?_referenceTo hchars hbraces]
  apply resolveReference_trimmed
  simp [trimmed]

theorem head?_storedTarget (name : String) : (storedTarget name).toList.head? = some 's' := by
  unfold storedTarget
  rw [Script.toList_member]
  rfl

/-- A reference that holds a brace is no reference, and does not read what is stored. -/
theorem resolve_inBraces_ne_of_brace (scope : Scope) {name : String}
    (hbrace : ∃ c ∈ name.toList, isBrace c = true) :
    scope.resolve (inBraces name) ≠ storedTarget name := by
  intro heq
  have hwhole : whole? (referenceTo name.toList) = none := by
    apply Option.eq_none_iff_forall_ne_some.mpr
    intro found hfound
    obtain ⟨c, hc, hcbrace⟩ := hbrace
    rw [not_isBrace_of_whole?_referenceTo hfound c hc] at hcbrace
    cases hcbrace
  have hfirst := head?_storedTarget name
  rw [← heq, resolve_inBraces_eq_resolveText] at hfirst
  unfold resolveText at hfirst
  simp only [toList_trimmed, String.toList_ofList, trim_referenceTo, hwhole] at hfirst
  -- a template literal, the text itself, or a quoted text
  split_ifs at hfirst
  · rw [templateLiteral, String.toList_ofList] at hfirst
    have hbacktick : Script.backtick = 's' := Option.some.inj hfirst
    exact absurd hbacktick (by decide)
  · rw [toList_trimmed, String.toList_ofList, trim_referenceTo] at hfirst
    simp [referenceTo] at hfirst
  · rw [Script.toList_quote] at hfirst
    simp [Script.encode] at hfirst

/-! Names that are taken as a whole. -/

theorem splitHead_append (name : List Char) : (splitHead name).1 ++ (splitHead name).2 = name := by
  unfold splitHead
  dsimp only
  split
  · exact List.append_nil name
  · exact List.takeWhile_append_dropWhile

theorem head?_splitHead_snd {name : List Char} {c : Char}
    (hhead : (splitHead name).2.head? = some c) : isHeadEnd c = true := by
  unfold splitHead at hhead
  dsimp only at hhead
  split at hhead
  · cases hhead
  · have hnot := List.head?_dropWhile_not (fun c => !isHeadEnd c) name
    rw [hhead] at hnot
    simpa using hnot

theorem not_isNamePart_of_isHeadEnd {c : Char} (hend : isHeadEnd c = true) :
    Script.isNamePart c = false ∧ c ≠ '\n' := by
  simp only [isHeadEnd, Bool.or_eq_true, decide_eq_true_eq] at hend
  rcases hend with rfl | rfl <;> decide

/-- The name starts with an access, has none, or has some that go over a line end. -/
def IsWhole (name : String) : Prop :=
  (∃ c, name.toList.head? = some c ∧ isHeadEnd c = true) ∨
    (∀ c ∈ name.toList, isHeadEnd c = false) ∨ '\n' ∈ (accessesOf name).toList

instance (name : String) : Decidable (IsWhole name) :=
  decidable_of_iff
    ((name.toList.head?.any isHeadEnd || name.toList.all (fun c => !isHeadEnd c) ||
      (accessesOf name).toList.contains '\n') = true)
    (by simp [IsWhole, Option.any_eq_true, or_assoc])

theorem splitHead_of_isWhole {name : String} (hwhole : IsWhole name) :
    splitHead name.toList = (name.toList, []) := by
  unfold splitHead
  dsimp only
  rcases hwhole with ⟨c, hhead, hend⟩ | hnone | hline
  · obtain ⟨rest, hname⟩ := List.head?_eq_some_iff.mp hhead
    simp [hname, hend]
  · have hall : ∀ c ∈ name.toList, (!isHeadEnd c) = true := by simpa using hnone
    rw [List.takeWhile_eq_self_iff.mpr hall, List.dropWhile_eq_nil_iff.mpr hall, ite_self]
  · rw [accessesOf, String.toList_ofList] at hline
    simp [hline]

theorem isWhole_of_splitHead {name : String} (hrest : (splitHead name.toList).2 = []) :
    IsWhole name := by
  unfold splitHead at hrest
  dsimp only at hrest
  split at hrest
  · next hwhole =>
      rcases Bool.or_eq_true_iff.mp hwhole with hempty | hline
      · cases hname : name.toList with
        | nil => exact .inr (.inl (by simp [hname]))
        | cons c rest =>
            refine .inl ⟨c, by rw [hname]; rfl, ?_⟩
            rw [hname] at hempty
            by_contra hend
            simp [hend] at hempty
      · exact .inr (.inr (by simpa [accessesOf] using hline))
  · refine .inr (.inl fun c hc => ?_)
    simpa using List.dropWhile_eq_nil_iff.mp hrest c hc

theorem length_lt_length_storedTarget (name : String) :
    name.toList.length < (storedTarget name).toList.length := by
  have haccess := Script.length_lt_length_accessText name.toList
  unfold storedTarget
  rw [Script.toList_member, List.length_append]
  omega

theorem resolveReference_of_isWhole {scope : Scope} {name : String} (hwhole : IsWhole name)
    (htrimmed : trimmed name = name) (hunqualified : isQualified name = false)
    (hroot : scope.rootOf name = storedRoot) :
    scope.resolveReference name = storedTarget name := by
  unfold resolveReference
  simp only [htrimmed, hunqualified, Bool.false_eq_true, if_false, splitHead_of_isWhole hwhole,
    String.ofList_toList, hroot]
  exact String.append_empty

theorem of_resolveReference_eq_storedTarget {scope : Scope} {name : String}
    (heq : scope.resolveReference name = storedTarget name) :
    trimmed name = name ∧ isQualified name = false ∧ IsWhole name := by
  unfold resolveReference at heq
  dsimp only at heq
  split at heq
  · -- an expression that stands as it is is shorter than the access
    have hlong := length_lt_length_storedTarget name
    have hshort := Text.length_trim_le name.toList
    rw [← heq, toList_trimmed] at hlong
    omega
  · next hunqualified =>
      have hchars := congrArg String.toList heq
      have hroot : scope.rootOf (String.ofList (splitHead (trimmed name).toList).1) =
          storedRoot := by
        by_contra hother
        have hcontext : IsAccess contextRoot (storedTarget name) := by
          rw [← heq, rootOf_eq_contextRoot_iff.mpr hother]
          exact member_append_isAccess _ _ _
        have hstored : IsAccess storedRoot (storedTarget name) := ⟨name, "", by simp [storedTarget]⟩
        exact not_isAccess_contextRoot hstored hcontext
      rw [String.toList_append, storedTarget, Script.toList_member, Script.toList_member, hroot,
        List.append_assoc, List.append_cancel_left_eq, String.toList_ofList,
        String.toList_ofList] at hchars
      obtain ⟨hhead, hrest⟩ := Script.accessText_append_inj
        (fun c hc => not_isNamePart_of_isHeadEnd (head?_splitHead_snd hc)) hchars
      have hname := splitHead_append (trimmed name).toList
      rw [hhead, hrest, List.append_nil] at hname
      have htrimmed : trimmed name = name := (String.toList_injective hname).symm
      rw [htrimmed] at hunqualified hrest
      have hnone : (splitHead name.toList).2 = [] := by simpa using hrest
      exact ⟨htrimmed, by simpa using hunqualified, isWhole_of_splitHead hnone⟩

/-! What is stored and what is read. -/

/-- A reference to a stored name reads what has been stored just when the name can stand between
braces and is taken as a whole: it holds no brace, has no blanks at its ends, is no expression
already, and has no accesses. -/
theorem resolve_eq_storedTarget_iff {steps : List Step} {blocks : List Block}
    {fields : List String} {scope : Scope} (hbuild : build steps blocks fields = .ok scope)
    {name : String} (hstores : Stores steps blocks name) :
    scope.resolve (inBraces name) = storedTarget name ↔
      (∀ c ∈ name.toList, isBrace c = false) ∧ trimmed name = name ∧ isQualified name = false ∧
        IsWhole name := by
  constructor
  · intro heq
    have hbraces : ∀ c ∈ name.toList, isBrace c = false := by
      intro c hc
      by_contra hbrace
      exact resolve_inBraces_ne_of_brace scope ⟨c, hc, by simpa using hbrace⟩ heq
    rw [resolve_inBraces scope hstores.ne_empty hbraces] at heq
    exact ⟨hbraces, of_resolveReference_eq_storedTarget heq⟩
  · rintro ⟨hbraces, htrimmed, hunqualified, hwhole⟩
    rw [resolve_inBraces scope hstores.ne_empty hbraces]
    exact resolveReference_of_isWhole hwhole htrimmed hunqualified
      ((rootOf_build_iff hbuild name).mpr hstores)

def storingStep (name : String) : Step where
  method := "read"
  storeAs := some name

theorem storingStep_stores {name : String} (hne : name ≠ "") :
    Stores [storingStep name] [] name :=
  .inl ⟨storingStep name, List.mem_singleton_self _, by
    simp [Step.stored?, storingStep, Option.filter, hne]⟩

theorem firstName_eq_storedTarget :
    ∃ scope, build [storingStep "first-name"] [] ["first-name"] = .ok scope ∧
      scope.resolve (inBraces "first-name") = "storedVars['first-name']" := by
  have hbuild := build_nil [storingStep "first-name"] ["first-name"]
  have hbraces : ("first-name".toList.all fun c => !isBrace c) = true := by decide
  refine ⟨_, hbuild, ?_⟩
  exact (resolve_eq_storedTarget_iff hbuild (storingStep_stores (by decide))).mpr
    ⟨by simpa using hbraces, by decide, by decide, by decide⟩

/-- A step stores under the name, and the reference to the name reads something else. -/
def ReadsOther (name : String) : Prop :=
  Stores [storingStep name] [] name ∧ ∃ scope,
    build [storingStep name] [] [] = .ok scope ∧
      scope.resolve (inBraces name) ≠ storedTarget name

/-- An expression already, a name with a blank in front, one with a brace, one with an access. -/
theorem not_eq_storedTarget :
    ReadsOther "storedVars" ∧ ReadsOther " total" ∧ ReadsOther "total\x7d" ∧
      ReadsOther "booking.id" := by
  refine ⟨⟨storingStep_stores (by decide), _, build_nil _ _, ?_⟩,
    ⟨storingStep_stores (by decide), _, build_nil _ _, ?_⟩,
    ⟨storingStep_stores (by decide), _, build_nil _ _, ?_⟩,
    ⟨storingStep_stores (by decide), _, build_nil _ _, ?_⟩⟩
  · decide +kernel
  · decide +kernel
  · exact resolve_inBraces_ne_of_brace _ ⟨'\x7d', by decide, by decide⟩
  · decide +kernel

end Scope

end ScreenFlow
