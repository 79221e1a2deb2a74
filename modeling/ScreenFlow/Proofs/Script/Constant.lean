import ScreenFlow.Proofs.Data.Digits
import ScreenFlow.Proofs.Scope.Template
import Mathlib.Algebra.Field.Rat

/-!
Numbers and truth values of the script.  A text that spells one stands in the script as it is, and the
script reads it by rules of its own: its digits are the ASCII digits, and a zero in front of other
digits is no part of a decimal number.  What the text spells is read just when it keeps these rules.
-/

namespace ScreenFlow

namespace Script

/-! What the script reads. -/

/-- A truth value, or a number of the size that is written; what runs has the nearest number to it. -/
inductive Constant where
  | truth (value : Bool)
  | decimal (isNegative : Bool) (size : ℚ)
  | octal (isNegative : Bool) (size : Nat)
  deriving DecidableEq

/-- The digits in front of the point.  More than one do not start with a zero; outside strict code
they may, with an eight or a nine among them. -/
def isWhole (strict : Bool) (digits : List Char) : Bool :=
  !digits.isEmpty &&
    (digits.head? != some '0' || digits.length == 1 ||
      (!strict && digits.any fun c => c = '8' || c = '9'))

def power? (digits : List Char) : Option Nat :=
  if !digits.isEmpty && digits.all Char.isDigit then some (Json.natOf digits) else none

def signedPower? : List Char → Option ℤ
  | '-' :: digits => (power? digits).map fun power => -(power : ℤ)
  | '+' :: digits => (power? digits).map fun power => (power : ℤ)
  | digits => (power? digits).map fun power => (power : ℤ)

def exponent? : List Char → Option ℤ
  | [] => some 0
  | mark :: rest => if mark = 'e' || mark = 'E' then signedPower? rest else none

def decimalSize (whole part : List Char) : ℚ :=
  Json.natOf whole + Json.natOf part / 10 ^ part.length

/-- The size of a decimal literal; separators between digits are left out. -/
def decimal? (strict : Bool) (text : List Char) : Option ℚ :=
  let (whole, behind) := Json.digits text
  match behind with
  | '.' :: rest =>
      let (part, tail) := Json.digits rest
      if isWhole strict whole || (whole.isEmpty && !part.isEmpty) then
        (exponent? tail).map fun power => decimalSize whole part * 10 ^ power
      else none
  | tail =>
      if isWhole strict whole then
        (exponent? tail).map fun power => decimalSize whole [] * 10 ^ power
      else none

def octal? : List Char → Option Nat
  | '0' :: c :: rest =>
      if (c :: rest).all fun c => '0' ≤ c && c ≤ '7' then
        some (UnitText.Numeral.valueIn 8 (c :: rest))
      else none
  | _ => none

/-- Strict code has no octal numbers that are told by a zero alone. -/
def number? (strict isNegative : Bool) (text : List Char) : Option Constant :=
  ((decimal? strict text).map (.decimal isNegative)).or
    (if strict then none else (octal? text).map (.octal isNegative))

def constant? (strict : Bool) (text : List Char) : Option Constant :=
  if text = (boolLiteral true).toList then some (.truth true)
  else if text = (boolLiteral false).toList then some (.truth false)
  else
    match text with
    | '-' :: unsigned => number? strict true unsigned
    | unsigned => number? strict false unsigned

/-! What a text spells. -/

def pointed : List Char → List Char
  | [] => []
  | digits => '.' :: digits

/-- A number in decimal digits of any script. -/
structure Figures where
  isNegative : Bool
  whole : List Char
  part : List Char
  whole_ne_nil : whole ≠ []
  isDecimal_of_mem : ∀ c ∈ whole ++ part, Text.isDecimal c = true

def Figures.text (figures : Figures) : List Char :=
  signedChars figures.isNegative (figures.whole ++ pointed figures.part)

/-- The truth value, or the number, that a text spells. -/
inductive Spells : List Char → Constant → Prop
  | truth (value : Bool) : Spells (boolLiteral value).toList (.truth value)
  | number (figures : Figures) {whole part : Nat}
      (hwhole : Text.decimalNumber? figures.whole = some whole)
      (hpart : Text.decimalNumber? figures.part = some part) :
      Spells figures.text
        (.decimal figures.isNegative (whole + part / 10 ^ figures.part.length))

theorem Figures.exists_whole (figures : Figures) :
    ∃ c rest, figures.whole = c :: rest ∧ Text.isDecimal c = true := by
  obtain ⟨c, rest, hcons⟩ := List.exists_cons_of_ne_nil figures.whole_ne_nil
  exact ⟨c, rest, hcons, figures.isDecimal_of_mem c (by simp [hcons])⟩

theorem ne_of_isDecimal {c d : Char} (hc : Text.isDecimal c = true)
    (hd : Text.isDecimal d = false) : c ≠ d := by
  rintro rfl
  rw [hc] at hd
  cases hd

theorem exists_parts {unsigned : List Char}
    (hhead : unsigned.head?.any Text.isDecimal = true)
    (htail : (match unsigned.dropWhile Text.isDecimal with
      | [] => true
      | '.' :: digits => !digits.isEmpty && digits.all Text.isDecimal
      | _ => false) = true) :
    ∃ whole part, unsigned = whole ++ pointed part ∧ whole ≠ [] ∧
      ∀ c ∈ whole ++ part, Text.isDecimal c = true := by
  have hsplit := List.takeWhile_append_dropWhile (p := Text.isDecimal) (l := unsigned)
  have hwhole : ∀ c ∈ unsigned.takeWhile Text.isDecimal, Text.isDecimal c = true :=
    fun c hmem => List.mem_takeWhile_imp hmem
  have hne : unsigned.takeWhile Text.isDecimal ≠ [] := by
    cases unsigned with
    | nil => cases hhead
    | cons c rest =>
        have hc : Text.isDecimal c = true := hhead
        simp [hc]
  split at htail
  · next hnone =>
      refine ⟨_, [], ?_, hne, by rwa [List.append_nil]⟩
      rw [pointed, ← hnone, hsplit]
  · next digits hpoint =>
      obtain ⟨hfilled, hdigits⟩ := Bool.and_eq_true_iff.mp htail
      refine ⟨_, digits, ?_, hne, ?_⟩
      · have hmark : pointed digits = '.' :: digits := by
          cases digits with
          | nil => cases hfilled
          | cons c rest => rfl
        rw [hmark, ← hpoint, hsplit]
      · exact List.forall_mem_append.mpr ⟨hwhole, List.all_eq_true.mp hdigits⟩
  · cases htail

theorem exists_figures {text : List Char} (hshape : Scope.isNumberShape text = true) :
    ∃ figures : Figures, text = figures.text := by
  have hsign : text = signedChars (text.head? = some '-')
      (if text.head? = some '-' then text.drop 1 else text) := by
    cases text with
    | nil => rfl
    | cons c rest =>
        by_cases hc : c = '-'
        · simp [signedChars, hc]
        · simp [signedChars, hc]
  unfold Scope.isNumberShape at hshape
  obtain ⟨hhead, htail⟩ := Bool.and_eq_true_iff.mp hshape
  obtain ⟨whole, part, hparts, hne, hdecimal⟩ := exists_parts hhead htail
  refine ⟨⟨text.head? = some '-', whole, part, hne, hdecimal⟩, ?_⟩
  rw [Figures.text, ← hparts]
  exact hsign

theorem exists_decimalNumber? {digits : List Char}
    (hdigits : ∀ c ∈ digits, Text.isDecimal c = true) :
    ∃ number, Text.decimalNumber? digits = some number := by
  unfold Text.decimalNumber?
  generalize 0 = value
  induction digits generalizing value with
  | nil => exact ⟨value, rfl⟩
  | cons c rest ih =>
      obtain ⟨hc, hrest⟩ := List.forall_mem_cons.mp hdigits
      obtain ⟨digit, hdigit⟩ := Option.isSome_iff_exists.mp hc
      rw [List.foldl_cons, hdigit]
      exact ih hrest _

/-! What is spelled and what is read. -/

theorem endsDigits_pointed (part : List Char) : EndsDigits (pointed part) := by
  intro c hhead
  cases part with
  | nil => cases hhead
  | cons d rest =>
      cases hhead
      rfl

/-- Of ASCII digits the script reads the number as it is, if it reads their whole part. -/
theorem decimal?_of_isDigit (strict : Bool) {whole part : List Char} (hne : whole ≠ [])
    (hwhole : ∀ c ∈ whole, c.isDigit = true) (hpart : ∀ c ∈ part, c.isDigit = true) :
    decimal? strict (whole ++ pointed part) =
      if isWhole strict whole then some (decimalSize whole part) else none := by
  have hempty : whole.isEmpty = false := by simpa using hne
  have hpower : exponent? [] = some 0 := rfl
  rw [decimal?, Json.digits_append hwhole (endsDigits_pointed part)]
  cases part with
  | nil => simp [pointed, hpower]
  | cons c rest =>
      have hdigits : Json.digits (c :: rest) = (c :: rest, []) := by
        have hend : EndsDigits [] := fun _ hhead => absurd hhead (by simp)
        simpa using Json.digits_append hpart hend
      simp [pointed, hpower, hdigits, hempty]

theorem exponent?_of_isDecimal {c : Char} (hc : Text.isDecimal c = true) (rest : List Char) :
    exponent? (c :: rest) = none := by
  have hsmall : c ≠ 'e' := ne_of_isDecimal hc (by decide)
  have hlarge : c ≠ 'E' := ne_of_isDecimal hc (by decide)
  simp [exponent?, hsmall, hlarge]

/-- A digit of another script ends the digits that the script reads. -/
theorem digits_of_foreign {digits : List Char} (hdecimal : ∀ c ∈ digits, Text.isDecimal c = true)
    (hforeign : ¬∀ c ∈ digits, c.isDigit = true) (rest : List Char) :
    ∃ read c behind, Json.digits (digits ++ rest) = (read, c :: behind) ∧
      Text.isDecimal c = true := by
  induction digits with
  | nil => exact absurd (List.forall_mem_nil _) hforeign
  | cons c digits ih =>
      obtain ⟨hc, hmore⟩ := List.forall_mem_cons.mp hdecimal
      by_cases hdigit : c.isDigit = true
      · have hothers : ¬∀ d ∈ digits, d.isDigit = true := fun hall =>
          hforeign (List.forall_mem_cons.mpr ⟨hdigit, hall⟩)
        obtain ⟨read, d, behind, hread, hd⟩ := ih hmore hothers
        refine ⟨c :: read, d, behind, ?_, hd⟩
        obtain ⟨htake, hdrop⟩ := Prod.mk.inj hread
        rw [Json.digits, List.cons_append, List.takeWhile_cons_of_pos hdigit,
          List.dropWhile_cons_of_pos hdigit, htake, hdrop]
      · refine ⟨[], c, digits ++ rest, ?_, hc⟩
        rw [Json.digits, List.cons_append, List.takeWhile_cons_of_neg hdigit,
          List.dropWhile_cons_of_neg hdigit]

theorem decimal?_of_foreign (strict : Bool) (figures : Figures)
    (hforeign : ¬∀ c ∈ figures.whole ++ figures.part, c.isDigit = true) :
    decimal? strict (figures.whole ++ pointed figures.part) = none := by
  obtain ⟨hwhole, hpart⟩ := List.forall_mem_append.mp figures.isDecimal_of_mem
  by_cases hdigits : ∀ c ∈ figures.whole, c.isDigit = true
  · have hothers : ¬∀ c ∈ figures.part, c.isDigit = true := fun hall =>
      hforeign (List.forall_mem_append.mpr ⟨hdigits, hall⟩)
    obtain ⟨read, c, behind, hread, hc⟩ := digits_of_foreign hpart hothers []
    rw [List.append_nil] at hread
    have hmark : pointed figures.part = '.' :: figures.part := by
      cases hcase : figures.part with
      | nil =>
          rw [hcase] at hothers
          exact absurd (List.forall_mem_nil _) hothers
      | cons d rest => rfl
    have hends := endsDigits_pointed figures.part
    rw [hmark] at hends ⊢
    rw [decimal?, Json.digits_append hdigits hends]
    simp [hread, exponent?_of_isDecimal hc]
  · obtain ⟨read, c, behind, hread, hc⟩ :=
      digits_of_foreign hwhole hdigits (pointed figures.part)
    have hpoint : c ≠ '.' := ne_of_isDecimal hc (by decide)
    rw [decimal?, hread]
    simp [hpoint, exponent?_of_isDecimal hc]

/-- The text keeps the rules of the script: its digits are ASCII digits, and no zero stands idle in
front of them. -/
structure KeepsRules (strict : Bool) (text : List Char) : Prop where
  ascii : ∀ c ∈ text, Text.isDecimal c = true → c.isDigit = true
  whole : isWhole strict ((text.takeWhile (· ≠ '.')).dropWhile (· = '-')) = true

theorem wholePart_figures (figures : Figures) :
    (figures.text.takeWhile (· ≠ '.')).dropWhile (· = '-') = figures.whole := by
  have hwhole := (List.forall_mem_append.mp figures.isDecimal_of_mem).1
  have hpoint : ∀ c ∈ figures.whole, decide (c ≠ '.') = true := fun c hmem =>
    decide_eq_true (ne_of_isDecimal (hwhole c hmem) (by decide))
  have hnothing : (pointed figures.part).takeWhile (· ≠ '.') = [] := by
    cases figures.part <;> rfl
  have htake : (figures.whole ++ pointed figures.part).takeWhile (· ≠ '.') = figures.whole := by
    rw [List.takeWhile_append_of_pos hpoint, hnothing, List.append_nil]
  have hdrop : figures.whole.dropWhile (· = '-') = figures.whole := by
    obtain ⟨c, rest, hcons, hc⟩ := figures.exists_whole
    have hsign : c ≠ '-' := ne_of_isDecimal hc (by decide)
    rw [hcons, List.dropWhile_cons_of_neg (by simpa using hsign)]
  rw [Figures.text]
  cases figures.isNegative with
  | false => rw [signedChars, if_neg Bool.false_ne_true, htake, hdrop]
  | true =>
      rw [signedChars, if_pos rfl, List.takeWhile_cons_of_pos (by decide), htake,
        List.dropWhile_cons_of_pos (by decide), hdrop]

theorem mem_figures_iff {figures : Figures} {c : Char} (hsign : c ≠ '-') (hpoint : c ≠ '.') :
    c ∈ figures.text ↔ c ∈ figures.whole ++ figures.part := by
  have hpart : c ∈ pointed figures.part ↔ c ∈ figures.part := by
    cases figures.part with
    | nil => rfl
    | cons d rest => simp [pointed, hpoint]
  rw [Figures.text, List.mem_append, ← hpart, ← List.mem_append]
  cases figures.isNegative <;> simp [signedChars, hsign]

theorem keepsRules_figures_iff {strict : Bool} {figures : Figures} :
    KeepsRules strict figures.text ↔
      (∀ c ∈ figures.whole ++ figures.part, c.isDigit = true) ∧
        isWhole strict figures.whole = true := by
  have hmem {c : Char} (hc : Text.isDecimal c = true) :
      c ∈ figures.text ↔ c ∈ figures.whole ++ figures.part :=
    mem_figures_iff (ne_of_isDecimal hc (by decide)) (ne_of_isDecimal hc (by decide))
  constructor
  · rintro ⟨hascii, hwhole⟩
    rw [wholePart_figures] at hwhole
    refine ⟨fun c hdigit => ?_, hwhole⟩
    have hc := figures.isDecimal_of_mem c hdigit
    exact hascii c ((hmem hc).mpr hdigit) hc
  · rintro ⟨hascii, hwhole⟩
    refine ⟨fun c hdigit hc => hascii c ((hmem hc).mp hdigit), ?_⟩
    rwa [wholePart_figures]

theorem not_isDecimal_of_mem_boolLiteral {value : Bool} {c : Char}
    (hmem : c ∈ (boolLiteral value).toList) : Text.isDecimal c = false := by
  have hall : ((boolLiteral value).toList.all fun c => !Text.isDecimal c) = true := by
    cases value <;> rfl
  simpa using List.all_eq_true.mp hall c hmem

theorem keepsRules_boolLiteral (strict value : Bool) :
    KeepsRules strict (boolLiteral value).toList where
  ascii c hmem hc := by
    rw [not_isDecimal_of_mem_boolLiteral hmem] at hc
    cases hc
  whole := by cases value <;> cases strict <;> rfl

theorem constant?_boolLiteral (strict value : Bool) :
    constant? strict (boolLiteral value).toList = some (.truth value) := by
  cases value <;> rfl

theorem constant?_figures (strict : Bool) (figures : Figures) :
    constant? strict figures.text =
      number? strict figures.isNegative (figures.whole ++ pointed figures.part) := by
  rw [Figures.text]
  cases figures.isNegative with
  | true => rfl
  | false =>
      obtain ⟨c, rest, hcons, hc⟩ := figures.exists_whole
      have htrue : c ≠ 't' := ne_of_isDecimal hc (by decide)
      have hfalse : c ≠ 'f' := ne_of_isDecimal hc (by decide)
      have hsign : c ≠ '-' := ne_of_isDecimal hc (by decide)
      rw [signedChars, if_neg Bool.false_ne_true, hcons, List.cons_append, constant?,
        if_neg (by simp [boolLiteral, htrue]), if_neg (by simp [boolLiteral, hfalse])]
      rintro unsigned heq
      exact hsign (List.cons.inj heq).1

theorem number?_eq_decimal_iff {strict isNegative : Bool} {text : List Char} {size : ℚ} :
    number? strict isNegative text = some (.decimal isNegative size) ↔
      decimal? strict text = some size := by
  unfold number?
  cases decimal? strict text with
  | some found => simp
  | none => cases strict <;> simp

theorem exists_spells (figures : Figures) :
    ∃ size, Spells figures.text (.decimal figures.isNegative size) := by
  obtain ⟨hwhole, hpart⟩ := List.forall_mem_append.mp figures.isDecimal_of_mem
  obtain ⟨whole, hwhole⟩ := exists_decimalNumber? hwhole
  obtain ⟨part, hpart⟩ := exists_decimalNumber? hpart
  exact ⟨_, .number figures hwhole hpart⟩

theorem spells_whole {digits : List Char} (hne : digits ≠ [])
    (hdecimal : digits.all Text.isDecimal = true) {number : Nat}
    (hnumber : Text.decimalNumber? digits = some number) :
    Spells digits (.decimal false number) := by
  have hall : ∀ c ∈ digits ++ [], Text.isDecimal c = true := by
    rwa [List.append_nil, ← List.all_eq_true]
  have hnothing : Text.decimalNumber? [] = some 0 := rfl
  have hspells := Spells.number ⟨false, digits, [], hne, hall⟩ hnumber hnothing
  simpa [Figures.text, signedChars, pointed] using hspells

theorem head?_figures_iff {figures : Figures} :
    figures.text.head? = some '-' ↔ figures.isNegative = true := by
  rw [Figures.text]
  cases figures.isNegative with
  | true => exact iff_of_true rfl rfl
  | false =>
      obtain ⟨c, rest, hcons, hc⟩ := figures.exists_whole
      have hsign : c ≠ '-' := ne_of_isDecimal hc (by decide)
      simp [signedChars, hcons, hsign]

theorem Figures.text_inj {figures other : Figures} (htext : figures.text = other.text) :
    figures.isNegative = other.isNegative ∧ figures.whole = other.whole ∧
      figures.part = other.part := by
  have hsign : figures.isNegative = other.isNegative := by
    rw [Bool.eq_iff_iff, ← head?_figures_iff, ← head?_figures_iff, htext]
  have hwhole : figures.whole = other.whole := by
    rw [← wholePart_figures figures, htext, wholePart_figures]
  refine ⟨hsign, hwhole, ?_⟩
  have hpointed : pointed figures.part = pointed other.part := by
    rw [Figures.text, Figures.text, hsign, hwhole] at htext
    cases hnegative : other.isNegative with
    | false =>
        rw [hnegative] at htext
        exact List.append_cancel_left htext
    | true =>
        rw [hnegative] at htext
        exact List.append_cancel_left (List.cons.inj htext).2
  cases hpart : figures.part <;> cases hother : other.part <;> simp_all [pointed]

theorem boolLiteral_inj :
    ∀ value other, (boolLiteral value).toList = (boolLiteral other).toList → value = other := by
  decide

theorem boolLiteral_ne_figures (value : Bool) (figures : Figures) :
    (boolLiteral value).toList ≠ figures.text := by
  intro heq
  obtain ⟨c, rest, hcons, hc⟩ := figures.exists_whole
  have hmem : c ∈ (boolLiteral value).toList := by
    rw [heq, mem_figures_iff (ne_of_isDecimal hc (by decide)) (ne_of_isDecimal hc (by decide)),
      hcons]
    exact List.mem_cons_self
  exact ne_of_isDecimal hc (not_isDecimal_of_mem_boolLiteral hmem) rfl

/-- A text spells one thing at the most. -/
theorem Spells.unique {text : List Char} {first second : Constant} (hfirst : Spells text first)
    (hsecond : Spells text second) : first = second := by
  generalize hread : text = read at hsecond
  cases hfirst with
  | truth value =>
      cases hsecond with
      | truth other => rw [boolLiteral_inj value other hread]
      | number figures => exact absurd hread (boolLiteral_ne_figures value figures)
  | number figures hwhole hpart =>
      cases hsecond with
      | truth other => exact absurd hread.symm (boolLiteral_ne_figures other figures)
      | number others hwholes hparts =>
          obtain ⟨hsign, hsame, hend⟩ := Figures.text_inj hread
          rw [hsame, hwholes] at hwhole
          rw [hend, hparts] at hpart
          cases hwhole
          cases hpart
          rw [hsign, hend]

/-- What a text spells is read from it just when it keeps the rules of the script. -/
theorem Spells.read_iff {text : List Char} {spelled : Constant} (hspells : Spells text spelled)
    (strict : Bool) : constant? strict text = some spelled ↔ KeepsRules strict text := by
  cases hspells with
  | truth value =>
      exact iff_of_true (constant?_boolLiteral strict value) (keepsRules_boolLiteral strict value)
  | number figures hwhole hpart =>
      rw [constant?_figures, number?_eq_decimal_iff, keepsRules_figures_iff]
      by_cases hascii : ∀ c ∈ figures.whole ++ figures.part, c.isDigit = true
      · obtain ⟨hfirst, hsecond⟩ := List.forall_mem_append.mp hascii
        rw [Text.decimalNumber?_of_isDigit hfirst] at hwhole
        rw [Text.decimalNumber?_of_isDigit hsecond] at hpart
        cases hwhole
        cases hpart
        rw [decimal?_of_isDigit strict figures.whole_ne_nil hfirst hsecond, and_iff_right hascii]
        simp [decimalSize]
      · rw [decimal?_of_foreign strict figures hascii]
        exact iff_of_false (Option.some_ne_none _).symm fun hkeeps => hascii hkeeps.1

end Script

namespace Scope

open Script Segment

theorem boolLiteral_or_figures {text : String} (hshape : isLiteralShape text = true) :
    (∃ value, text = boolLiteral value) ∨ ∃ figures : Figures, text.toList = figures.text := by
  simp only [isLiteralShape, Bool.or_eq_true, beq_iff_eq] at hshape
  rcases hshape with (rfl | rfl) | hnumber
  · exact .inl ⟨true, rfl⟩
  · exact .inl ⟨false, rfl⟩
  · exact .inr (exists_figures hnumber)

theorem not_brace_of_isLiteralShape {text : String} (hshape : isLiteralShape text = true) :
    '\x7b' ∉ text.toList := by
  rcases boolLiteral_or_figures hshape with ⟨value, rfl⟩ | ⟨figures, htext⟩
  · cases value <;> decide
  · rw [htext, mem_figures_iff (by decide) (by decide)]
    intro hmem
    exact ne_of_isDecimal (figures.isDecimal_of_mem _ hmem) (by decide) rfl

theorem any_isReference_scan {text : List Char} (hplain : '\x7b' ∉ text) :
    (scan text).any isReference = false := by
  rw [Bool.eq_false_iff, Ne, any_isReference_scan_iff]
  exact Cut.not_holdsReference hplain

/-- A number or a truth value stands without the blanks around it. -/
theorem resolve_of_isLiteralShape (scope : Scope) {text : String}
    (hshape : isLiteralShape (trimmed text) = true) :
    scope.resolve (.text text) = trimmed text := by
  have hbrace := not_brace_of_isLiteralShape hshape
  have hmarker : Placeholder.ofMarker? text = none := by
    have hmarkers : ∀ kind ∈ Placeholder.all, isLiteralShape (trimmed kind.marker) = false := by
      decide
    apply List.find?_eq_none.mpr
    intro kind hmem hmarker
    rw [← beq_iff_eq.mp hmarker, hmarkers kind hmem] at hshape
    cases hshape
  have hwhole : whole? (Text.trim text.toList) = none := by
    by_contra hwhole
    obtain ⟨name, hname⟩ := Option.ne_none_iff_exists'.mp hwhole
    obtain ⟨between, htext, -⟩ := exists_of_whole? hname
    rw [toList_trimmed, htext] at hbrace
    exact hbrace List.mem_cons_self
  have hplain : '\x7b' ∉ text.toList := by
    obtain ⟨left, right, htext, hleft, hright⟩ := Text.exists_of_trim text.toList
    rw [toList_trimmed] at hbrace
    rw [htext, List.mem_append, List.mem_append]
    rintro ((hmem | hmem) | hmem)
    · exact absurd (hleft _ hmem) (by decide)
    · exact hbrace hmem
    · exact absurd (hright _ hmem) (by decide)
  rw [resolve, hmarker, Option.isSome_none, if_neg Bool.false_ne_true]
  unfold resolveText
  dsimp only
  rw [toList_trimmed, hwhole]
  dsimp only
  rw [any_isReference_scan hplain, if_neg Bool.false_ne_true, hshape, Bool.or_true, if_pos rfl]

/-- A text in the shape of a number or a truth value stands without the blanks around it.  The script
reads from it the one thing it spells, just when it keeps the rules of the script. -/
theorem literalShape_read_iff (scope : Scope) {text : String}
    (hshape : isLiteralShape (trimmed text) = true) :
    scope.resolve (.text text) = trimmed text ∧
      ∃ spelled, (∀ other, Spells (trimmed text).toList other ↔ other = spelled) ∧
        ∀ strict, constant? strict (scope.resolve (.text text)).toList = some spelled ↔
          KeepsRules strict (trimmed text).toList := by
  have hresolve := resolve_of_isLiteralShape scope hshape
  have hspells : ∃ spelled, Spells (trimmed text).toList spelled := by
    rcases boolLiteral_or_figures hshape with ⟨value, htext⟩ | ⟨figures, htext⟩
    · rw [htext]
      exact ⟨_, .truth value⟩
    · rw [htext]
      obtain ⟨size, hsize⟩ := exists_spells figures
      exact ⟨_, hsize⟩
  obtain ⟨spelled, hspelled⟩ := hspells
  refine ⟨hresolve, spelled, fun other => ⟨fun hother => hother.unique hspelled, ?_⟩,
    fun strict => ?_⟩
  · rintro rfl
    exact hspelled
  · rw [hresolve]
    exact hspelled.read_iff strict

def threeAndHalf : Figures where
  isNegative := true
  whole := ['3']
  part := ['5', '0']
  whole_ne_nil := List.cons_ne_nil _ _
  isDecimal_of_mem := List.all_eq_true.mp rfl

theorem threeAndHalf_read :
    isLiteralShape (trimmed " -3.50 ") = true ∧
      Spells (trimmed " -3.50 ").toList (.decimal true (3 + 50 / 10 ^ 2)) ∧
      constant? true (resolve [] (.text " -3.50 ")).toList =
        some (.decimal true (3 + 50 / 10 ^ 2)) := by
  have hshape : isLiteralShape (trimmed " -3.50 ") = true := by decide
  have hspelled : Spells (trimmed " -3.50 ").toList (.decimal true (3 + 50 / 10 ^ 2)) :=
    .number threeAndHalf rfl rfl
  obtain ⟨-, spelled, hspells, hread⟩ := literalShape_read_iff [] hshape
  cases (hspells _).mp hspelled
  have hkeeps : KeepsRules true threeAndHalf.text :=
    keepsRules_figures_iff.mpr ⟨List.all_eq_true.mp rfl, rfl⟩
  exact ⟨hshape, hspelled, (hread true).mpr hkeeps⟩

/-- A zero in front makes an octal number, and the digits of other scripts make none. -/
theorem not_literalShape_read :
    (resolve [] (.text "010") = "010" ∧ Spells "010".toList (.decimal false 10) ∧
        constant? true "010".toList = none ∧
        constant? false "010".toList = some (.octal false 8)) ∧
      resolve [] (.text "٣") = "٣" ∧ Spells "٣".toList (.decimal false 3) ∧
        ∀ strict, constant? strict "٣".toList = none := by
  have hten : Text.decimalNumber? "010".toList = some 10 := rfl
  have hthree : Text.decimalNumber? "٣".toList = some 3 := rfl
  refine ⟨⟨?_, ?_, ?_, ?_⟩, ?_, ?_, ?_⟩
  · exact resolve_of_isLiteralShape [] (by decide)
  · exact spells_whole (List.cons_ne_nil _ _) rfl hten
  · rfl
  · rfl
  · exact resolve_of_isLiteralShape [] (by decide)
  · exact spells_whole (List.cons_ne_nil _ _) rfl hthree
  · intro strict
    cases strict <;> rfl

end Scope

end ScreenFlow
