import ScreenFlow.Naming.Words
import ScreenFlow.Proofs.Text.Case
import ScreenFlow.Proofs.Text.Pieces

/-!
Which characters a name keeps when it is spelled in another way: all but the separators, and nothing
comes in.  Where the words of a name meet at humps they are capitals already, so that only the runs
between separators count.

An ASCII name that has been spelled is a single run, so that to spell it again changes its first
letter at most.  The file of a test therefore starts with the name of the action, in capital
spelling.
-/

namespace ScreenFlow

namespace Text

theorem mem_flatten_splitRuns {isSeparator : Char → Bool} {c : Char}
    (hc : isSeparator c = false) (text : List Char) :
    c ∈ (splitRuns isSeparator text).flatten ↔ c ∈ text := by
  rw [flatten_splitRuns, List.mem_filter, hc]
  exact and_iff_left rfl

end Text

namespace Naming

theorem flatten_splitHumps (text : List Char) : (splitHumps text).flatten = text := by
  fun_induction splitHumps text with
  | case1 => rfl
  | case2 c => rfl
  | case3 c d rest hhump word words hwords ih => simp_all
  | case4 c d rest hhump ih => simp_all

variable {c : Char}

theorem mem_flatten_words (hc : isSeparator c = false) (text : List Char) :
    c ∈ (words text).flatten ↔ c ∈ text := by
  rw [← Text.mem_flatten_splitRuns hc text]
  simp only [words, List.mem_flatten, List.mem_flatMap]
  constructor
  · rintro ⟨word, ⟨run, hrun, hword⟩, hmem⟩
    refine ⟨run, hrun, ?_⟩
    rw [← flatten_splitHumps run]
    exact List.mem_flatten.mpr ⟨word, hword, hmem⟩
  · rintro ⟨run, hrun, hmem⟩
    rw [← flatten_splitHumps run] at hmem
    obtain ⟨word, hword, hmem⟩ := List.mem_flatten.mp hmem
    exact ⟨word, ⟨run, hrun, hword⟩, hmem⟩

theorem mem_pascal_iff (hletter : c.toNat < 65) (hc : isSeparator c = false) (text : List Char) :
    c ∈ pascal text ↔ c ∈ text := by
  rw [← mem_flatten_words hc text]
  simp [pascal, List.mem_flatMap, Text.mem_upperFirst_iff hletter]

theorem mem_camel_iff (hletter : c.toNat < 65) (hc : isSeparator c = false) (text : List Char) :
    c ∈ camel text ↔ c ∈ text := by
  unfold camel
  rw [Text.mem_lowerFirst_iff hletter, mem_pascal_iff hletter hc]

/-! Names by the runs between their separators. -/

/-- The text between separators, without the separators. -/
def runs (text : List Char) : List (List Char) :=
  Text.splitRuns isSeparator text

theorem ne_nil_of_mem_runs {text run : List Char} (hrun : run ∈ runs text) : run ≠ [] :=
  Text.ne_nil_of_mem_splitRuns_go hrun

theorem upperChar_of_isUpper {c : Char} (hupper : c.isUpper = true) : Text.upperChar c = [c] := by
  have hascii : c.toNat < 128 := by
    have hletter : 'A' ≤ c ∧ c ≤ 'Z' := of_decide_eq_true hupper
    have hlast : c.toNat ≤ 90 := hletter.2
    omega
  have htoUpper : c.toUpper = c := by
    refine Text.of_ascii (P := fun c => c.isUpper = true → c.toUpper = c) ?_ hascii hupper
    decide
  rw [Text.upperChar, if_pos hascii, htoUpper]

/-- The first word starts where the text does, and a word behind a hump with a capital. -/
theorem splitHumps_cons (c : Char) (rest : List Char) :
    ∃ word others, splitHumps (c :: rest) = (c :: word) :: others ∧
      ∀ other ∈ others, Text.upperFirst other = other := by
  induction rest generalizing c with
  | nil => exact ⟨[], [], rfl, by simp⟩
  | cons d rest ih =>
      obtain ⟨word, others, hsplit, hothers⟩ := ih d
      cases hhump : isHump c d with
      | false => exact ⟨d :: word, others, by simp only [splitHumps, hhump, hsplit], hothers⟩
      | true =>
          refine ⟨[], (d :: word) :: others, by simp only [splitHumps, hhump, hsplit],
            List.forall_mem_cons.mpr ⟨?_, hothers⟩⟩
          rw [Text.upperFirst, upperChar_of_isUpper (Bool.and_eq_true_iff.mp hhump).2]
          rfl

/-- The humps of a run make no difference to its capital form. -/
theorem flatMap_upperFirst_splitHumps (run : List Char) :
    (splitHumps run).flatMap Text.upperFirst = Text.upperFirst run := by
  cases run with
  | nil => rfl
  | cons c rest =>
      obtain ⟨word, others, hsplit, hothers⟩ := splitHumps_cons c rest
      have hwhole := flatten_splitHumps (c :: rest)
      rw [hsplit, List.flatten_cons, List.cons_append, List.cons.injEq] at hwhole
      have hflat : others.flatMap Text.upperFirst = others.flatten := by
        rw [List.flatMap_def, List.map_congr_left hothers, List.map_id']
      rw [hsplit, List.flatMap_cons, hflat, Text.upperFirst, Text.upperFirst, List.append_assoc,
        hwhole.2]

theorem pascal_eq_flatMap_runs (text : List Char) :
    pascal text = (runs text).flatMap Text.upperFirst := by
  rw [pascal, words, List.flatMap_assoc]
  exact List.flatMap_congr fun run _ => flatMap_upperFirst_splitHumps run

theorem camel_eq_nil_of_runs {text : List Char} (hruns : runs text = []) : camel text = [] := by
  rw [camel, pascal_eq_flatMap_runs, hruns]
  rfl

theorem camel_eq_of_runs {text first : List Char} {others : List (List Char)}
    (hruns : runs text = first :: others) :
    camel text = Text.lowerFirst (Text.upperFirst first) ++ others.flatMap Text.upperFirst := by
  have hfirst : Text.upperFirst first ≠ [] :=
    Text.upperFirst_ne_nil (ne_nil_of_mem_runs (hruns ▸ List.mem_cons_self))
  rw [camel, pascal_eq_flatMap_runs, hruns, List.flatMap_cons, Text.lowerFirst_append hfirst]

/-! ASCII names that are spelled again. -/

/-- ASCII characters without separators. -/
structure IsRun (text : List Char) : Prop where
  ascii : ∀ c ∈ text, c.toNat < 128
  whole : ∀ c ∈ text, isSeparator c = false

section Ascii

open Text

theorem isSeparator_toUpper {c : Char} (hascii : c.toNat < 128) :
    isSeparator c.toUpper = isSeparator c :=
  of_ascii (P := fun c => isSeparator c.toUpper = isSeparator c) (by decide) hascii

theorem isSeparator_toLower {c : Char} (hascii : c.toNat < 128) :
    isSeparator c.toLower = isSeparator c :=
  of_ascii (P := fun c => isSeparator c.toLower = isSeparator c) (by decide) hascii

theorem isRun_nil : IsRun [] :=
  ⟨by simp, by simp⟩

theorem isRun_cons {c : Char} {rest : List Char} :
    IsRun (c :: rest) ↔ (c.toNat < 128 ∧ isSeparator c = false) ∧ IsRun rest := by
  constructor
  · rintro ⟨hascii, hwhole⟩
    obtain ⟨hc, hrest⟩ := List.forall_mem_cons.mp hascii
    obtain ⟨hseparator, hothers⟩ := List.forall_mem_cons.mp hwhole
    exact ⟨⟨hc, hseparator⟩, hrest, hothers⟩
  · rintro ⟨⟨hc, hseparator⟩, hrest, hothers⟩
    exact ⟨List.forall_mem_cons.mpr ⟨hc, hrest⟩, List.forall_mem_cons.mpr ⟨hseparator, hothers⟩⟩

theorem IsRun.append {first second : List Char} (hfirst : IsRun first) (hsecond : IsRun second) :
    IsRun (first ++ second) :=
  ⟨List.forall_mem_append.mpr ⟨hfirst.ascii, hsecond.ascii⟩,
    List.forall_mem_append.mpr ⟨hfirst.whole, hsecond.whole⟩⟩

theorem IsRun.upperFirst {text : List Char} (hrun : IsRun text) : IsRun (upperFirst text) := by
  cases text with
  | nil => exact isRun_nil
  | cons c rest =>
      obtain ⟨⟨hc, hseparator⟩, hrest⟩ := isRun_cons.mp hrun
      rw [upperFirst_cons_ascii hc]
      exact isRun_cons.mpr ⟨⟨toNat_toUpper_lt hc, by rwa [isSeparator_toUpper hc]⟩, hrest⟩

theorem IsRun.lowerFirst {text : List Char} (hrun : IsRun text) : IsRun (lowerFirst text) := by
  cases text with
  | nil => exact isRun_nil
  | cons c rest =>
      obtain ⟨⟨hc, hseparator⟩, hrest⟩ := isRun_cons.mp hrun
      rw [lowerFirst_cons_ascii hc]
      exact isRun_cons.mpr ⟨⟨toNat_toLower_lt hc, by rwa [isSeparator_toLower hc]⟩, hrest⟩

theorem isRun_of_mem_runs {text run : List Char} (hascii : ∀ c ∈ text, c.toNat < 128)
    (hrun : run ∈ runs text) : IsRun run := by
  have hkept : ∀ c ∈ run, c ∈ text ∧ isSeparator c = false := by
    intro c hc
    have hmem : c ∈ (runs text).flatten := List.mem_flatten.mpr ⟨run, hrun, hc⟩
    rw [runs, flatten_splitRuns] at hmem
    simpa using hmem
  exact ⟨fun c hc => hascii c (hkept c hc).1, fun c hc => (hkept c hc).2⟩

/-- A name that has been spelled is a single run. -/
theorem isRun_pascal {text : List Char} (hascii : ∀ c ∈ text, c.toNat < 128) :
    IsRun (pascal text) := by
  have hruns : ∀ run ∈ runs text, IsRun (upperFirst run) := fun run hrun =>
    (isRun_of_mem_runs hascii hrun).upperFirst
  rw [pascal_eq_flatMap_runs]
  generalize runs text = all at hruns
  induction all with
  | nil => exact isRun_nil
  | cons first others ih =>
      obtain ⟨hfirst, hothers⟩ := List.forall_mem_cons.mp hruns
      exact hfirst.append (ih hothers)

theorem isRun_camel {text : List Char} (hascii : ∀ c ∈ text, c.toNat < 128) :
    IsRun (camel text) :=
  (isRun_pascal hascii).lowerFirst

/-- Of a single run only the first letter changes. -/
theorem IsRun.pascal {text : List Char} (hrun : IsRun text) :
    pascal text = Text.upperFirst text := by
  rw [pascal_eq_flatMap_runs]
  cases text with
  | nil => rfl
  | cons c rest =>
      rw [runs, splitRuns_of_whole (List.cons_ne_nil c rest) hrun.whole, List.flatMap_singleton]

theorem upperFirst_pascal {text : List Char} (hascii : ∀ c ∈ text, c.toNat < 128) :
    upperFirst (pascal text) = pascal text := by
  rw [pascal_eq_flatMap_runs]
  cases hruns : runs text with
  | nil => rfl
  | cons first others =>
      have hmem : first ∈ runs text := hruns ▸ List.mem_cons_self
      rw [List.flatMap_cons, upperFirst_append (upperFirst_ne_nil (ne_nil_of_mem_runs hmem)),
        upperFirst_upperFirst (isRun_of_mem_runs hascii hmem).ascii]

theorem pascal_pascal {text : List Char} (hascii : ∀ c ∈ text, c.toNat < 128) :
    pascal (pascal text) = pascal text := by
  rw [(isRun_pascal hascii).pascal, upperFirst_pascal hascii]

theorem pascal_camel {text : List Char} (hascii : ∀ c ∈ text, c.toNat < 128) :
    pascal (camel text) = pascal text := by
  rw [(isRun_camel hascii).pascal, camel, upperFirst_lowerFirst (isRun_pascal hascii).ascii,
    upperFirst_pascal hascii]

theorem camel_pascal {text : List Char} (hascii : ∀ c ∈ text, c.toNat < 128) :
    camel (pascal text) = camel text := by
  rw [camel, pascal_pascal hascii, camel]

theorem camel_camel {text : List Char} (hascii : ∀ c ∈ text, c.toNat < 128) :
    camel (camel text) = camel text := by
  rw [camel, pascal_camel hascii, camel]

/-- The name of an action that tells the previous state, in capital spelling. -/
theorem upperFirst_via {target fromState : List Char} (htarget : ∀ c ∈ target, c.toNat < 128) :
    upperFirst (camel target ++ 'V' :: 'i' :: 'a' :: pascal fromState) =
      pascal target ++ 'V' :: 'i' :: 'a' :: pascal fromState := by
  have hname := (isRun_camel htarget).pascal
  rw [pascal_camel htarget] at hname
  cases hcamel : camel target with
  | nil =>
      rw [hname, hcamel]
      rfl
  | cons c rest => rw [upperFirst_append (List.cons_ne_nil c rest), hname, hcamel]

end Ascii

end Naming

open Naming

theorem startsWith_append (first second : String) : startsWith (first ++ second) first = true := by
  simp [startsWith, String.toList_append]

theorem startsWith_specFileName (action suffix : String) (event : Option String)
    (extension : String) :
    startsWith (specFileName action suffix event extension) (pascalCase action) = true := by
  unfold specFileName
  dsimp only
  rw [List.singleton_append, List.cons_append, String.append_assoc]
  cases hothers : ((event.filter (· != "")).toList.map eventPart) ++ [suffix] with
  | nil => simp at hothers
  | cons next others =>
      rw [String.intercalate_cons_cons, String.append_assoc, String.append_assoc]
      exact startsWith_append _ _

/-- The four ways to spell an ASCII name twice come down to the last one, and the name of a file
starts with the name of its function in capital spelling: the target's, `Via` and the previous
state's. -/
theorem spelled_twice_of_ascii {target fromState : String}
    (htarget : ∀ c ∈ target.toList, c.toNat < 128)
    (hfromState : ∀ c ∈ fromState.toList, c.toNat < 128) (hne : fromState ≠ "")
    (override event : Option String) (suffix extension : String) :
    (pascalCase (pascalCase target) = pascalCase target ∧
        pascalCase (camelCase target) = pascalCase target ∧
        camelCase (pascalCase target) = camelCase target ∧
        camelCase (camelCase target) = camelCase target) ∧
      capitalized (actionName target (some fromState) override) =
        pascalCase target ++ "Via" ++ pascalCase fromState ∧
      startsWith
        (specFileName (actionName target (some fromState) override) suffix event extension)
        (pascalCase target ++ "Via" ++ pascalCase fromState) = true := by
  have hname : (actionName target (some fromState) override).toList =
      camel target.toList ++ 'V' :: 'i' :: 'a' :: pascal fromState.toList := by
    simp [actionName, Option.filter, hne, camelCase, pascalCase]
  have hshown : pascalCase target ++ "Via" ++ pascalCase fromState =
      capitalized (actionName target (some fromState) override) := by
    rw [capitalized, hname, upperFirst_via htarget, ← String.toList_inj]
    simp [pascalCase]
  have hrun : IsRun (actionName target (some fromState) override).toList := by
    have hvia : IsRun ['V', 'i', 'a'] := by
      simp only [isRun_cons, isRun_nil]
      decide
    rw [hname]
    exact (isRun_camel htarget).append (hvia.append (isRun_pascal hfromState))
  have hfile : capitalized (actionName target (some fromState) override) =
      pascalCase (actionName target (some fromState) override) := by
    rw [capitalized, pascalCase, hrun.pascal]
  refine ⟨⟨?_, ?_, ?_, ?_⟩, hshown.symm, ?_⟩
  · simp only [pascalCase, String.toList_ofList, pascal_pascal htarget]
  · simp only [pascalCase, camelCase, String.toList_ofList, pascal_camel htarget]
  · simp only [pascalCase, camelCase, String.toList_ofList, camel_pascal htarget]
  · simp only [camelCase, String.toList_ofList, camel_camel htarget]
  · rw [hshown, hfile]
    exact startsWith_specFileName _ _ _ _

theorem checkedIn_spelled :
    (∀ c ∈ "checked_in-NOW".toList, c.toNat < 128) ∧ (∀ c ∈ "roomReady".toList, c.toNat < 128) ∧
      "roomReady" ≠ "" ∧
      camelCase (pascalCase "checked_in-NOW") = "checkedInNOW" ∧
      startsWith
        (specFileName (actionName "checked_in-NOW" (some "roomReady") (some "checkIn")) "Web"
          (some "CHECK_IN") specExtension)
        "CheckedInNOWViaRoomReady" = true := by
  have htarget : ∀ c ∈ "checked_in-NOW".toList, c.toNat < 128 := by simp
  have hfromState : ∀ c ∈ "roomReady".toList, c.toNat < 128 := by simp
  obtain ⟨⟨-, -, hcamel, -⟩, -, hfile⟩ := spelled_twice_of_ascii htarget hfromState (by decide)
    (some "checkIn") (some "CHECK_IN") "Web" specExtension
  have hstart : pascalCase "checked_in-NOW" ++ "Via" ++ pascalCase "roomReady" =
      "CheckedInNOWViaRoomReady" := by decide +kernel
  exact ⟨htarget, hfromState, by decide, hcamel.trans (by decide +kernel), hstart ▸ hfile⟩

end ScreenFlow
