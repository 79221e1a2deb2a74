import ScreenFlow.Text.Case
import Mathlib.Data.List.Basic

/-!
What a change of case leaves alone.  Letters turn into letters and everything else stays, so that a
character that stands before the letters, such as a digit, a dot or a slash, neither comes in nor
goes.

The small form of a text.  It does not tell a capital ASCII letter from a small one, not even where
a sigma looks at its neighbours; and it is as long as the small forms of the characters together.
-/

namespace ScreenFlow.Text

/-- A form of a character: the character itself, or letters in place of a letter. -/
def FormOf (c : Char) (form : List Char) : Prop :=
  form = [c] ∨ 65 ≤ c.toNat ∧ ∀ d ∈ form, 65 ≤ d.toNat

theorem FormOf.mem_iff {c d : Char} {form : List Char} (hform : FormOf d form)
    (hc : c.toNat < 65) : c ∈ form ↔ c = d := by
  rcases hform with rfl | ⟨hd, hall⟩
  · exact List.mem_singleton
  · constructor
    · intro hmem
      exact absurd (hall c hmem) (by omega)
    · rintro rfl
      omega

/-! The tables. -/

/-- Rows that lead to characters, none of which stands before the letters. -/
def LeadToLetters (rows : List (Nat × Nat × Nat × Int)) : Prop :=
  ∀ row ∈ rows, 65 ≤ row.1 + row.2.2.2 ∧
    (row.2.1 + row.2.2.2 < 0xD800 ∨
      0xE000 ≤ row.1 + row.2.2.2 ∧ row.2.1 + row.2.2.2 < 0x110000)

instance (rows : List (Nat × Nat × Nat × Int)) : Decidable (LeadToLetters rows) :=
  inferInstanceAs (Decidable (∀ _ ∈ _, _))

theorem upperRows_leadToLetters : LeadToLetters upperRows := by decide +kernel

theorem lowerRows_leadToLetters : LeadToLetters lowerRows := by decide +kernel

theorem upperSequences_letters :
    ∀ entry ∈ upperSequences, ∀ n ∈ entry.2, 65 ≤ n ∧ n < 0xD800 := by
  decide +kernel

theorem toNat_ofNat_of_valid {n : Nat} (hn : n < 0xD800 ∨ 0xE000 ≤ n ∧ n < 0x110000) :
    (Char.ofNat n).toNat = n := by
  have hvalid : n.isValidChar := by
    unfold Nat.isValidChar
    omega
  unfold Char.ofNat
  rw [dif_pos hvalid]
  rfl

theorem shifted_formOf {rows : List (Nat × Nat × Nat × Int)} (hrows : LeadToLetters rows)
    {c : Char} (hc : 65 ≤ c.toNat) : FormOf c [shifted rows c] := by
  refine .inr ⟨hc, List.forall_mem_singleton.mpr ?_⟩
  unfold shifted
  dsimp only
  split
  · next first last stride shift hfind =>
      have hrange := List.find?_some hfind
      simp only [Bool.and_eq_true, decide_eq_true_eq] at hrange
      obtain ⟨hletters, hvalid⟩ := hrows _ (List.mem_of_find?_eq_some hfind)
      dsimp only at hletters hvalid
      rw [toNat_ofNat_of_valid (by omega)]
      omega
  · exact hc

/-! Characters. -/

theorem of_ascii {P : Char → Prop} (hall : ∀ n < 128, P (Char.ofNat n)) {c : Char}
    (hascii : c.toNat < 128) : P c := by
  have hc := hall c.toNat hascii
  rwa [Char.ofNat_toNat] at hc

theorem formOf_of_ascii {change : Char → Char}
    (hchange : ∀ n < 128, change (Char.ofNat n) = Char.ofNat n ∨
      65 ≤ (Char.ofNat n).toNat ∧ 65 ≤ (change (Char.ofNat n)).toNat)
    {c : Char} (hascii : c.toNat < 128) : FormOf c [change c] :=
  (of_ascii (P := fun d => change d = d ∨ 65 ≤ d.toNat ∧ 65 ≤ (change d).toNat) hchange
      hascii).imp (congrArg (fun d => [d])) fun hletters =>
    ⟨hletters.1, List.forall_mem_singleton.mpr hletters.2⟩

theorem upperChar_formOf (c : Char) : FormOf c (upperChar c) := by
  unfold upperChar
  split
  · next hascii => exact formOf_of_ascii (by decide) hascii
  · next hascii =>
      split
      · next code form hfind =>
          have hform := upperSequences_letters _ (List.mem_of_find?_eq_some hfind)
          refine .inr ⟨by omega, fun d hd => ?_⟩
          obtain ⟨n, hn, rfl⟩ := List.mem_map.mp hd
          obtain ⟨hletter, hvalid⟩ := hform n hn
          rw [toNat_ofNat_of_valid (.inl hvalid)]
          exact hletter
      · exact shifted_formOf upperRows_leadToLetters (by omega)

theorem lowerChar_formOf (c : Char) : FormOf c (lowerChar c) := by
  unfold lowerChar
  split
  · next hascii => exact formOf_of_ascii (by decide) hascii
  · next hascii =>
      split
      · exact .inr ⟨by omega, by simp⟩
      · exact shifted_formOf lowerRows_leadToLetters (by omega)

/-! Texts. -/

variable {c : Char}

theorem mem_upper_iff (hc : c.toNat < 65) (text : List Char) : c ∈ upper text ↔ c ∈ text := by
  unfold upper
  simp [List.mem_flatMap, (upperChar_formOf _).mem_iff hc]

theorem mem_upperFirst_iff (hc : c.toNat < 65) (text : List Char) :
    c ∈ upperFirst text ↔ c ∈ text := by
  cases text with
  | nil => rfl
  | cons d rest =>
      unfold upperFirst
      rw [List.mem_append, (upperChar_formOf d).mem_iff hc, List.mem_cons]

theorem mem_lowerFrom_iff (hc : c.toNat < 65) (before text : List Char) :
    c ∈ lowerFrom before text ↔ c ∈ text := by
  induction text generalizing before with
  | nil => rfl
  | cons d rest ih =>
      unfold lowerFrom
      dsimp only
      rw [List.mem_append, ih, List.mem_cons]
      refine or_congr (FormOf.mem_iff ?_ hc) Iff.rfl
      -- a sigma has two small forms
      split
      · split
        · exact .inr ⟨by omega, by simp⟩
        · exact .inr ⟨by omega, by simp⟩
      · exact lowerChar_formOf d

theorem mem_lowerFirst_iff (hc : c.toNat < 65) (text : List Char) :
    c ∈ lowerFirst text ↔ c ∈ text := by
  cases text with
  | nil => rfl
  | cons d rest =>
      unfold lowerFirst lower
      rw [List.mem_append, mem_lowerFrom_iff hc, List.mem_singleton, List.mem_cons]

/-! The case of ASCII letters. -/

theorem toLower_of_not_ascii {c : Char} (hc : ¬ c.toNat < 128) : c.toLower = c := by
  unfold Char.toLower
  rw [dif_neg]
  rintro ⟨-, hle⟩
  have hcode : c.toNat ≤ 90 := hle
  omega

theorem toUpper_of_not_ascii {c : Char} (hc : ¬ c.toNat < 128) : c.toUpper = c := by
  unfold Char.toUpper
  rw [dif_neg]
  rintro ⟨-, hle⟩
  have hcode : c.toNat ≤ 122 := hle
  omega

/-- What is the same for both forms of each ASCII character is the same for both forms of any. -/
theorem apply_toLower {α : Type} {f : Char → α}
    (hascii : ∀ n < 128, f (Char.ofNat n).toLower = f (Char.ofNat n)) (c : Char) :
    f c.toLower = f c := by
  by_cases hc : c.toNat < 128
  · exact of_ascii (P := fun d => f d.toLower = f d) hascii hc
  · rw [toLower_of_not_ascii hc]

theorem toLower_toUpper (c : Char) : c.toUpper.toLower = c.toLower := by
  by_cases hc : c.toNat < 128
  · exact of_ascii (P := fun d => d.toUpper.toLower = d.toLower) (by decide) hc
  · rw [toUpper_of_not_ascii hc]

theorem toUpper_toUpper {c : Char} (hascii : c.toNat < 128) : c.toUpper.toUpper = c.toUpper :=
  of_ascii (P := fun c => c.toUpper.toUpper = c.toUpper) (by decide) hascii

theorem toUpper_toLower {c : Char} (hascii : c.toNat < 128) : c.toLower.toUpper = c.toUpper :=
  of_ascii (P := fun c => c.toLower.toUpper = c.toUpper) (by decide) hascii

theorem toNat_toUpper_lt {c : Char} (hascii : c.toNat < 128) : c.toUpper.toNat < 128 :=
  of_ascii (P := fun c => c.toUpper.toNat < 128) (by decide) hascii

theorem toNat_toLower_lt {c : Char} (hascii : c.toNat < 128) : c.toLower.toNat < 128 :=
  of_ascii (P := fun c => c.toLower.toNat < 128) (by decide) hascii

theorem lowerChar_toLower (c : Char) : lowerChar c.toLower = lowerChar c :=
  apply_toLower (by decide) c

theorem isCased_toLower (c : Char) : isCased c.toLower = isCased c :=
  apply_toLower (by decide +kernel) c

theorem isCaseIgnorable_toLower (c : Char) : isCaseIgnorable c.toLower = isCaseIgnorable c :=
  apply_toLower (by decide +kernel) c

theorem nextIsCased_map_toLower (text : List Char) :
    nextIsCased (text.map Char.toLower) = nextIsCased text := by
  have hignorable : isCaseIgnorable ∘ Char.toLower = isCaseIgnorable :=
    funext isCaseIgnorable_toLower
  unfold nextIsCased
  rw [List.dropWhile_map, hignorable]
  cases text.dropWhile isCaseIgnorable with
  | nil => rfl
  | cons c rest => exact isCased_toLower c

theorem lowerFrom_map_toLower (before text : List Char) :
    lowerFrom (before.map Char.toLower) (text.map Char.toLower) = lowerFrom before text := by
  induction text generalizing before with
  | nil => rfl
  | cons c rest ih =>
      have hsigma : (c.toLower.toNat = 0x3A3) = (c.toNat = 0x3A3) :=
        apply_toLower (f := fun d => d.toNat = 0x3A3) (by decide) c
      have hrest := ih (c :: before)
      rw [List.map_cons] at hrest ⊢
      unfold lowerFrom
      dsimp only
      rw [hrest, nextIsCased_map_toLower, nextIsCased_map_toLower, lowerChar_toLower]
      simp only [hsigma]

theorem lower_map_toLower (text : List Char) : lower (text.map Char.toLower) = lower text :=
  lowerFrom_map_toLower [] text

/-! Lengths. -/

theorem lowerChar_ne_nil (c : Char) : lowerChar c ≠ [] := by
  unfold lowerChar
  split
  · simp
  · split <;> simp

theorem length_lowerFrom (before text : List Char) :
    (lowerFrom before text).length = (text.flatMap lowerChar).length := by
  induction text generalizing before with
  | nil => rfl
  | cons c rest ih =>
      unfold lowerFrom
      dsimp only
      rw [List.length_append, ih, List.flatMap_cons, List.length_append]
      congr 1
      split
      · next hsigma =>
          -- both small forms of a sigma are one character
          have hform : lowerChar c = [shifted lowerRows c] := by
            unfold lowerChar
            rw [if_neg (by omega), if_neg (by omega)]
          rw [hform]
          split <;> rfl
      · rfl

theorem length_lower_append (first second : List Char) :
    (lower (first ++ second)).length = (lower first).length + (lower second).length := by
  unfold lower
  simp only [length_lowerFrom, List.flatMap_append, List.length_append]

theorem lower_eq_nil_iff {text : List Char} : lower text = [] ↔ text = [] := by
  cases text with
  | nil => exact iff_of_true rfl rfl
  | cons c rest =>
      refine iff_of_false (fun hnil => ?_) (List.cons_ne_nil c rest)
      have hlength := length_lowerFrom [] (c :: rest)
      rw [← lower, hnil, List.length_nil] at hlength
      have hforms := List.eq_nil_of_length_eq_zero hlength.symm
      exact lowerChar_ne_nil c (List.append_eq_nil_iff.mp hforms).1

theorem upperSequences_ne_nil : ∀ row ∈ upperSequences, row.2 ≠ [] := by decide +kernel

theorem upperChar_ne_nil (c : Char) : upperChar c ≠ [] := by
  unfold upperChar
  split
  · simp
  · split
    · next row hrow =>
        exact fun hnil => upperSequences_ne_nil _ (List.mem_of_find?_eq_some hrow)
          (List.map_eq_nil_iff.mp hnil)
    · simp

theorem upperFirst_append {first : List Char} (hne : first ≠ []) (rest : List Char) :
    upperFirst (first ++ rest) = upperFirst first ++ rest := by
  cases first with
  | nil => exact absurd rfl hne
  | cons c others => exact (List.append_assoc _ _ _).symm

theorem upperFirst_ne_nil {text : List Char} (hne : text ≠ []) : upperFirst text ≠ [] := by
  cases text with
  | nil => exact absurd rfl hne
  | cons c rest => exact List.append_ne_nil_of_left_ne_nil (upperChar_ne_nil c) rest

theorem lowerFirst_append {first : List Char} (hne : first ≠ []) (rest : List Char) :
    lowerFirst (first ++ rest) = lowerFirst first ++ rest := by
  cases first with
  | nil => exact absurd rfl hne
  | cons c others => exact (List.append_assoc _ _ _).symm

theorem lowerFirst_ne_nil {text : List Char} (hne : text ≠ []) : lowerFirst text ≠ [] := by
  cases text with
  | nil => exact absurd rfl hne
  | cons c rest =>
      exact List.append_ne_nil_of_left_ne_nil
        (fun hnil => List.cons_ne_nil c [] (lower_eq_nil_iff.mp hnil)) rest

/-! The first letter of an ASCII text. -/

theorem upperFirst_cons_ascii {c : Char} (hascii : c.toNat < 128) (rest : List Char) :
    upperFirst (c :: rest) = c.toUpper :: rest := by
  rw [upperFirst, upperChar, if_pos hascii, List.singleton_append]

theorem lowerFirst_cons_ascii {c : Char} (hascii : c.toNat < 128) (rest : List Char) :
    lowerFirst (c :: rest) = c.toLower :: rest := by
  rw [lowerFirst, lower_ascii (List.forall_mem_singleton.mpr hascii), List.map_singleton,
    List.singleton_append]

theorem upperFirst_upperFirst {text : List Char} (hascii : ∀ c ∈ text, c.toNat < 128) :
    upperFirst (upperFirst text) = upperFirst text := by
  cases text with
  | nil => rfl
  | cons c rest =>
      have hc := hascii c List.mem_cons_self
      rw [upperFirst_cons_ascii hc, upperFirst_cons_ascii (toNat_toUpper_lt hc),
        toUpper_toUpper hc]

theorem upperFirst_lowerFirst {text : List Char} (hascii : ∀ c ∈ text, c.toNat < 128) :
    upperFirst (lowerFirst text) = upperFirst text := by
  cases text with
  | nil => rfl
  | cons c rest =>
      have hc := hascii c List.mem_cons_self
      rw [lowerFirst_cons_ascii hc, upperFirst_cons_ascii (toNat_toLower_lt hc),
        upperFirst_cons_ascii hc, toUpper_toLower hc]

end ScreenFlow.Text
