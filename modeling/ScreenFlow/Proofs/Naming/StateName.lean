import ScreenFlow.Naming.StateName
import ScreenFlow.Proofs.Text.Pieces
import ScreenFlow.Proofs.Text.Case

/-!
State names that denote the same state.  It makes no difference which of two names comes first, nor
in which case their ASCII letters are written; and every name but the empty one denotes its state.
-/

namespace ScreenFlow.StateName

theorem denotes_iff {candidate target : String} :
    denotes candidate target = true ↔
      candidate ≠ "" ∧ target ≠ "" ∧
        (normal candidate.toList = normal target.toList ∨
          normal (lastSegment candidate.toList) = normal target.toList ∨
          normal candidate.toList = normal (lastSegment target.toList)) := by
  simp [denotes, matchesChars, or_assoc, and_assoc]

theorem denotes_empty (candidate : String) : denotes candidate "" = false := by
  simp [denotes, matchesChars]

theorem denotes_self {name : String} (hname : name ≠ "") : denotes name name = true :=
  denotes_iff.mpr ⟨hname, hname, .inl rfl⟩

theorem denotes_symm {first second : String} (hdenotes : denotes first second = true) :
    denotes second first = true := by
  obtain ⟨hfirst, hsecond, hwhole | hlast | hlast⟩ := denotes_iff.mp hdenotes
  · exact denotes_iff.mpr ⟨hsecond, hfirst, .inl hwhole.symm⟩
  · exact denotes_iff.mpr ⟨hsecond, hfirst, .inr (.inr hlast.symm)⟩
  · exact denotes_iff.mpr ⟨hsecond, hfirst, .inr (.inl hlast.symm)⟩

theorem denotes_comm (first second : String) : denotes first second = denotes second first :=
  Bool.eq_iff_iff.mpr ⟨denotes_symm, denotes_symm⟩

/-! The case of ASCII letters. -/

theorem isIgnored_toLower (c : Char) : isIgnored c.toLower = isIgnored c :=
  Text.apply_toLower (by decide) c

theorem isSegmentEnd_toLower (c : Char) : isSegmentEnd c.toLower = isSegmentEnd c :=
  Text.apply_toLower (by decide) c

theorem normal_map_toLower (name : List Char) : normal (name.map Char.toLower) = normal name := by
  have hkept : (fun c => !isIgnored c) ∘ Char.toLower = fun c => !isIgnored c :=
    funext fun c => congrArg not (isIgnored_toLower c)
  unfold normal
  rw [List.filter_map, hkept, Text.lower_map_toLower]

theorem lastSegment_map_toLower (name : List Char) :
    lastSegment (name.map Char.toLower) = (lastSegment name).map Char.toLower := by
  unfold lastSegment
  rw [Text.splitRuns_map isSegmentEnd_toLower, List.getLast?_map, Option.getD_map]

theorem matchesChars_map_toLower (candidate target : List Char) :
    matchesChars (candidate.map Char.toLower) (target.map Char.toLower) =
      matchesChars candidate target := by
  unfold matchesChars
  simp only [lastSegment_map_toLower, normal_map_toLower, List.isEmpty_map]

/-- The second name is the first with the case of some ASCII letters changed. -/
def Recased (first second : String) : Prop :=
  List.Forall₂ (fun c d => d = c ∨ d = c.toUpper ∨ d = c.toLower) first.toList second.toList

instance (first second : String) : Decidable (Recased first second) :=
  inferInstanceAs (Decidable (List.Forall₂ _ _ _))

theorem Recased.map_toLower {first second : String} (hcase : Recased first second) :
    second.toList.map Char.toLower = first.toList.map Char.toLower := by
  unfold Recased at hcase
  generalize first.toList = before at hcase
  generalize second.toList = after at hcase
  induction hcase with
  | nil => rfl
  | cons hc _ ih =>
      rw [List.map_cons, List.map_cons, ih]
      rcases hc with rfl | rfl | rfl
      · rfl
      · rw [Text.toLower_toUpper]
      · rw [Text.apply_toLower (f := Char.toLower) (by decide)]

theorem denotes_of_recased {first second first' second' : String} (hfirst : Recased first first')
    (hsecond : Recased second second') : denotes first' second' = denotes first second := by
  calc
    denotes first' second' =
        matchesChars (first'.toList.map Char.toLower) (second'.toList.map Char.toLower) :=
      (matchesChars_map_toLower _ _).symm
    _ = matchesChars (first.toList.map Char.toLower) (second.toList.map Char.toLower) := by
      rw [hfirst.map_toLower, hsecond.map_toLower]
    _ = denotes first second := matchesChars_map_toLower _ _

/-- Whether two names denote the same state depends neither on their order nor on the case of their
ASCII letters, and every name but the empty one denotes its own state. -/
theorem denotes_comm_self_recased (first second : String) :
    denotes first second = denotes second first ∧
      (first ≠ "" → denotes first first = true) ∧
      ∀ first' second', Recased first first' → Recased second second' →
        denotes first' second' = denotes first second :=
  ⟨denotes_comm first second, denotes_self, fun _ _ => denotes_of_recased⟩

theorem accepted_comm_self_recased :
    denotes "booking_accepted" "accepted" = denotes "accepted" "booking_accepted" ∧
      denotes "booking_accepted" "booking_accepted" = true ∧
      Recased "booking_accepted" "Booking_Accepted" ∧ Recased "accepted" "ACCEPTED" ∧
      denotes "Booking_Accepted" "ACCEPTED" = denotes "booking_accepted" "accepted" ∧
      denotes "booking_accepted" "accepted" = true := by
  obtain ⟨hcomm, hself, hcase⟩ := denotes_comm_self_recased "booking_accepted" "accepted"
  have hfirst : Recased "booking_accepted" "Booking_Accepted" := by decide
  have hsecond : Recased "accepted" "ACCEPTED" := by decide
  exact ⟨hcomm, hself (by decide), hfirst, hsecond, hcase _ _ hfirst hsecond, by decide +kernel⟩

end ScreenFlow.StateName
