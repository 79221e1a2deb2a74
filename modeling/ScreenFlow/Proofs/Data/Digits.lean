import ScreenFlow.Proofs.Data.Spelling
import ScreenFlow.UnitText.Numeral
import Mathlib.Algebra.Group.Nat.Defs
import Mathlib.Data.List.Basic

/-!
The digits of a number read back.
-/

namespace ScreenFlow

/-- The text does not go on with a digit. -/
def EndsDigits (rest : List Char) : Prop :=
  ∀ c, rest.head? = some c → c.isDigit = false

/-- The marks behind an item, and a line end. -/
def closingMarks : List Char :=
  [',', ']', '\x7d', '\n']

/-- The text is over, or goes on with a closing mark. -/
def Closes (rest : List Char) : Prop :=
  ∀ c, rest.head? = some c → c ∈ closingMarks

/-- What holds of all closing marks, holds of the character with which the text goes on. -/
theorem Closes.head {rest : List Char} (hrest : Closes rest) {P : Char → Prop} [DecidablePred P]
    (hmarks : (closingMarks.all fun c => P c) = true) {c : Char} (hhead : rest.head? = some c) :
    P c :=
  of_decide_eq_true (List.all_eq_true.mp hmarks c (hrest c hhead))

theorem isDigit_of_mem_digitChars {n : Nat} {c : Char} (hmem : c ∈ digitChars n) :
    c.isDigit = true :=
  Nat.isDigit_of_mem_toDigits (by decide) (by decide) hmem

theorem digitChars_ne_nil (n : Nat) : digitChars n ≠ [] :=
  Nat.toDigits_ne_nil

/-- Only zero starts with the digit zero. -/
theorem head?_digitChars {n : Nat} (hpos : 0 < n) : (digitChars n).head? ≠ some '0' := by
  induction n using Nat.strongRecOn with
  | ind n ih =>
      rw [digitChars, Nat.toDigits_eq_if (by decide)]
      split
      · next hlt =>
          have hdigit : ∀ digit < 10, 0 < digit → Nat.digitChar digit ≠ '0' := by decide
          rw [List.head?_cons, Ne, Option.some.injEq]
          exact hdigit n hlt hpos
      · next hle =>
          have hfirst := ih (n / 10) (by omega) (by omega)
          rw [digitChars] at hfirst
          rw [List.head?_append]
          cases hhead : (Nat.toDigits 10 (n / 10)).head? with
          | none => exact absurd (List.head?_eq_none_iff.mp hhead) Nat.toDigits_ne_nil
          | some c =>
              rw [hhead] at hfirst
              exact hfirst

theorem lt_length_digitChars_pow {count : Nat} (hpos : 0 < count) :
    count < (digitChars (10 ^ count)).length := by
  rw [← Nat.not_le, digitChars, Nat.length_toDigits_le_iff (by decide) hpos]
  exact Nat.lt_irrefl _

/-- A text that starts with a digit. -/
def DigitFirst (chars : List Char) : Prop :=
  ∃ first more, chars = first :: more ∧ first.isDigit = true

theorem digitFirst_digitChars (n : Nat) : DigitFirst (digitChars n) := by
  cases hdigits : digitChars n with
  | nil => exact absurd hdigits (digitChars_ne_nil n)
  | cons first more =>
      exact ⟨first, more, rfl, isDigit_of_mem_digitChars (hdigits ▸ List.mem_cons_self)⟩

theorem takeWhile_isDigit {digits rest : List Char} (hdigits : ∀ c ∈ digits, c.isDigit = true)
    (hrest : EndsDigits rest) : (digits ++ rest).takeWhile Char.isDigit = digits := by
  rw [List.takeWhile_append_of_pos hdigits]
  cases rest with
  | nil => simp
  | cons c rest => simp [hrest c rfl]

theorem dropWhile_isDigit {digits rest : List Char} (hdigits : ∀ c ∈ digits, c.isDigit = true)
    (hrest : EndsDigits rest) : (digits ++ rest).dropWhile Char.isDigit = rest := by
  rw [List.dropWhile_append_of_pos hdigits]
  cases rest with
  | nil => rfl
  | cons c rest => simp [hrest c rfl]

namespace Json

theorem digits_append {ds rest : List Char} (hall : ∀ c ∈ ds, c.isDigit = true)
    (hrest : EndsDigits rest) : digits (ds ++ rest) = (ds, rest) := by
  rw [digits, takeWhile_isDigit hall hrest, dropWhile_isDigit hall hrest]

@[simp] theorem natOf_digitChars (n : Nat) : natOf (digitChars n) = n := by
  have hback : Nat.ofDigitChars 10 (Nat.toDigits 10 n) 0 = n := Nat.ofDigitChars_ten_toDigits
  simp only [Nat.ofDigitChars, Nat.mul_comm 10] at hback
  exact hback

end Json

theorem toList_toString_int (n : Int) : (toString n).toList = integerChars n := by
  cases n with
  | ofNat n =>
      change n.repr.toList = _
      rw [Nat.toList_repr]
      rfl
  | negSucc n =>
      have hneg : decide (Int.negSucc n < 0) = true := decide_eq_true (Int.negSucc_lt_zero n)
      change ("-" ++ (n + 1).repr).toList = _
      rw [String.toList_append, Nat.toList_repr, integerChars, hneg]
      rfl

/-! Where a number ends. -/

theorem digitChars_append_inj {n m : Nat} {rest last : List Char} (hrest : EndsDigits rest)
    (hlast : EndsDigits last) (heq : digitChars n ++ rest = digitChars m ++ last) :
    n = m ∧ rest = last := by
  have hdigits (n : Nat) : ∀ c ∈ digitChars n, c.isDigit = true := fun c => isDigit_of_mem_digitChars
  have htake := congrArg (List.takeWhile Char.isDigit) heq
  have hdrop := congrArg (List.dropWhile Char.isDigit) heq
  rw [takeWhile_isDigit (hdigits n) hrest, takeWhile_isDigit (hdigits m) hlast] at htake
  rw [dropWhile_isDigit (hdigits n) hrest, dropWhile_isDigit (hdigits m) hlast] at hdrop
  refine ⟨?_, hdrop⟩
  rw [← Json.natOf_digitChars n, htake, Json.natOf_digitChars]

theorem signedChars_append_inj {isNegative other : Bool} {chars others rest last : List Char}
    (hchars : DigitFirst chars) (hothers : DigitFirst others)
    (heq : signedChars isNegative chars ++ rest = signedChars other others ++ last) :
    isNegative = other ∧ chars ++ rest = others ++ last := by
  obtain ⟨c, more, rfl, hc⟩ := hchars
  obtain ⟨d, less, rfl, hd⟩ := hothers
  cases isNegative <;> cases other
  · exact ⟨rfl, heq⟩
  · obtain ⟨rfl, -⟩ := List.cons.inj heq
    cases hc
  · obtain ⟨rfl, -⟩ := List.cons.inj heq
    cases hd
  · exact ⟨rfl, (List.cons.inj heq).2⟩

theorem integerChars_append_inj {n m : Int} {rest last : List Char} (hrest : EndsDigits rest)
    (hlast : EndsDigits last) (heq : integerChars n ++ rest = integerChars m ++ last) :
    n = m ∧ rest = last := by
  obtain ⟨hsign, hchars⟩ :=
    signedChars_append_inj (digitFirst_digitChars _) (digitFirst_digitChars _) heq
  obtain ⟨hsize, hends⟩ := digitChars_append_inj hrest hlast hchars
  have hnegative := decide_eq_decide.mp hsign
  exact ⟨by omega, hends⟩

/-! The digits among those of every script. -/

namespace Text

theorem toNat_of_isDigit {c : Char} (hdigit : c.isDigit = true) :
    48 ≤ c.toNat ∧ c.toNat ≤ 57 := by
  simp only [Char.isDigit, Bool.and_eq_true, decide_eq_true_eq, ge_iff_le,
    UInt32.le_iff_toNat_le] at hdigit
  exact hdigit

theorem decimalValue?_of_isDigit {c : Char} (hdigit : c.isDigit = true) :
    decimalValue? c = some (c.toNat - '0'.toNat) := by
  have hrange := toNat_of_isDigit hdigit
  have hfirst : (decide (48 ≤ c.toNat) && decide (c.toNat < 48 + 10)) = true := by
    simp only [Bool.and_eq_true, decide_eq_true_eq]
    omega
  obtain ⟨others, hzeros⟩ : ∃ others, decimalZeros = 48 :: others := ⟨_, rfl⟩
  simp only [decimalValue?, hzeros, List.find?_cons, hfirst, Option.map_some]
  rfl

theorem isDigit_of_isDigit {c : Char} (hdigit : c.isDigit = true) : isDigit c = true := by
  rw [isDigit, isDecimal, decimalValue?_of_isDigit hdigit]
  rfl

theorem decimalNumber?_of_isDigit {digits : List Char} (hdigits : ∀ c ∈ digits, c.isDigit = true) :
    decimalNumber? digits = some (Json.natOf digits) := by
  unfold decimalNumber? Json.natOf
  generalize 0 = value
  induction digits generalizing value with
  | nil => rfl
  | cons c rest ih =>
      obtain ⟨hfirst, hrest⟩ := List.forall_mem_cons.mp hdigits
      rw [List.foldl_cons, List.foldl_cons, decimalValue?_of_isDigit hfirst]
      exact ih hrest _

theorem allDigits_digitChars (n : Nat) : allDigits (digitChars n) = true := by
  rw [allDigits, Bool.and_eq_true, List.all_eq_true]
  constructor
  · simpa using digitChars_ne_nil n
  · intro c hmem
    exact isDigit_of_isDigit (isDigit_of_mem_digitChars hmem)

/-- A number is read from its digits, unless there are too many of them. -/
theorem wholeNumber?_digitChars (n : Nat) :
    wholeNumber? (digitChars n) =
      if (digitChars n).length ≤ mostDigits then some n else none := by
  have hnumber : decimalNumber? (digitChars n) = some n := by
    rw [decimalNumber?_of_isDigit fun c => isDigit_of_mem_digitChars, Json.natOf_digitChars]
  rw [wholeNumber?, hnumber]
  by_cases hshort : (digitChars n).length ≤ mostDigits
  · rw [if_neg (Nat.not_lt.mpr hshort), if_pos hshort]
  · rw [if_pos (Nat.lt_of_not_le hshort), if_neg hshort]

end Text

/-! Hexadecimal digits. -/

namespace Json

end Json

namespace UnitText.Numeral

end UnitText.Numeral

end ScreenFlow
