import ScreenFlow.Json.Writer
import ScreenFlow.Script.Quoted
import ScreenFlow.UnitText.Numeral
import Mathlib.Tactic.SplitIfs

/-!
Reading the script back.  A reader of string literals stops at the first quote that is not escaped;
it gives back the text of every literal that is written, whatever follows it.  An access to a
property therefore tells which property it reads.

The same by the whole grammar of the script's string literals: in front of any text there is one way
to read a literal that is written, up to its own end and with the units of its text as its value.
-/

namespace ScreenFlow

namespace Script

/-! String literals. -/

/-- What the character behind a backslash stands for.  Escapes by number are left out. -/
def templateEscape? (c : Char) : Option (List Char) :=
  if c = 'n' then some ['\n']
  else if c = 'r' then some ['\r']
  else if c = 't' then some ['\t']
  else if c = 'b' then some [Char.ofNat 8]
  else if c = 'v' then some [Char.ofNat 11]
  else if c = 'f' then some [Char.ofNat 12]
  else if c.toNat ∈ [10, 13, 0x2028, 0x2029] then some []
  else if c.isDigit || c = 'x' || c = 'u' then none
  else some [c]

def unescaped : Char → Char
  | 'n' => '\n'
  | 'r' => '\r'
  | c => c

/-- The text up to the closing quote, and what follows the quote. -/
def readBody? : List Char → Option (List Char × List Char)
  | [] => none
  | '\'' :: rest => some ([], rest)
  | '\\' :: c :: rest =>
      (readBody? rest).map fun found => (unescaped c :: found.1, found.2)
  | c :: rest => (readBody? rest).map fun found => (c :: found.1, found.2)

theorem readBody?_escaped (c : Char) (rest : List Char) :
    readBody? (escaped c ++ rest) =
      (readBody? rest).map fun found => (c :: found.1, found.2) := by
  unfold escaped
  split_ifs with hslash hquote hfeed hreturn
  · subst hslash
    rfl
  · subst hquote
    rfl
  · subst hfeed
    rfl
  · subst hreturn
    rfl
  · rw [List.singleton_append, readBody?]
    · exact hquote
    · rintro d after rfl -
      exact hslash rfl

/-- A literal is read back exactly, and the reading stops where the literal ends. -/
theorem readBody?_flatMap_escaped (text rest : List Char) :
    readBody? (text.flatMap escaped ++ '\'' :: rest) = some (text, rest) := by
  induction text with
  | nil => rfl
  | cons c text ih =>
      rw [List.flatMap_cons, List.append_assoc, readBody?_escaped, ih]
      rfl

theorem encode_append_inj {first second after last : List Char}
    (heq : encode first ++ after = encode second ++ last) : first = second ∧ after = last := by
  have hfirst := readBody?_flatMap_escaped first after
  have hsecond := readBody?_flatMap_escaped second last
  simp only [encode, List.cons_append, List.append_assoc, List.nil_append,
    List.cons.injEq, true_and] at heq
  rw [heq, hsecond, Option.some.injEq, Prod.mk.injEq] at hfirst
  exact ⟨hfirst.1.symm, hfirst.2.symm⟩

theorem length_le_length_encode (text : List Char) : text.length ≤ (encode text).length := by
  have hone (c : Char) : 1 ≤ (escaped c).length := by
    unfold escaped
    split_ifs <;> simp
  induction text with
  | nil => exact Nat.zero_le _
  | cons c rest ih =>
      have hc := hone c
      simp only [encode, List.flatMap_cons, List.cons_append, List.length_cons,
        List.length_append] at ih ⊢
      omega

/-! The grammar of string literals.  The value of a literal is made of UTF-16 units, since an escape
may stand for half of a pair. -/

/-- What one character behind a backslash stands for. -/
def singleEscape? : Char → Option Char
  | 'n' => some '\n'
  | 'r' => some '\r'
  | 't' => some '\t'
  | 'b' => some (Char.ofNat 8)
  | 'v' => some (Char.ofNat 11)
  | 'f' => some (Char.ofNat 12)
  | '\'' => some '\''
  | '"' => some '"'
  | '\\' => some '\\'
  | _ => none

def isLineEnd (c : Char) : Bool :=
  [10, 13, 0x2028, 0x2029].contains c.toNat

def isOctalDigit (c : Char) : Bool :=
  UnitText.Numeral.isDigitOf 8 c

def octalValue (digits : List Char) : Nat :=
  UnitText.Numeral.valueIn 8 digits

/-- The character does not stand for itself behind a backslash: an escape by number starts with it,
or it is one of the two digits that strict code does not allow there. -/
def StartsNumber (strict : Bool) (c : Char) : Prop :=
  c = 'x' ∨ c = 'u' ∨ isOctalDigit c = true ∨ strict = true ∧ (c = '8' ∨ c = '9')

/-- The octal digits of an escape: as many as give a unit below 256, three at most.  Strict code has
only the zero, and no digit behind it. -/
structure IsOctalEscape (strict : Bool) (text digits rest : List Char) : Prop where
  split : text = digits ++ rest
  filled : digits ≠ []
  octal : ∀ c ∈ digits, isOctalDigit c = true
  short : digits.length ≤ 3
  fits : octalValue digits < 256
  longest : ∀ c ∈ rest.head?, isOctalDigit c = true →
    digits.length = 3 ∨ 256 ≤ octalValue (digits ++ [c])
  strictly : strict = true → digits = ['0'] ∧ ∀ c ∈ rest.head?, c.isDigit = false

/-- The units of a code point, half of a pair among them. -/
def pointUnits (point : Nat) : List Nat :=
  if point < 0x10000 then [point] else Json.units (Char.ofNat point)

/-- An escape without its backslash: the text that it stands in front of, the units that it stands
for, and what follows it. -/
inductive ReadsEscape (strict : Bool) : List Char → List Nat → List Char → Prop
  | single {c spelled : Char} {rest : List Char} (hspelled : singleEscape? c = some spelled) :
      ReadsEscape strict (c :: rest) (Json.units spelled) rest
  | itself {c : Char} {rest : List Char} (hsingle : singleEscape? c = none)
      (hnumber : ¬StartsNumber strict c) (hline : isLineEnd c = false) :
      ReadsEscape strict (c :: rest) (Json.units c) rest
  | octal {text digits rest : List Char} (hoctal : IsOctalEscape strict text digits rest) :
      ReadsEscape strict text [octalValue digits] rest
  | hex {a b : Char} {unit : Nat} {rest : List Char} (hunit : Json.hexNumber? [a, b] = some unit) :
      ReadsEscape strict ('x' :: a :: b :: rest) [unit] rest
  | unit {a b c d : Char} {unit : Nat} {rest : List Char}
      (hunit : Json.hexNumber? [a, b, c, d] = some unit) :
      ReadsEscape strict ('u' :: a :: b :: c :: d :: rest) [unit] rest
  | point {digits rest : List Char} {point : Nat} (hfilled : digits ≠ [])
      (hpoint : Json.hexNumber? digits = some point) (hbound : point ≤ 0x10FFFF) :
      ReadsEscape strict ('u' :: '\x7b' :: (digits ++ '\x7d' :: rest)) (pointUnits point) rest
  | lineEnd {c : Char} {rest : List Char} (hline : isLineEnd c = true)
      (hfeed : c = '\r' → rest.head? ≠ some '\n') : ReadsEscape strict (c :: rest) [] rest
  | returnFeed {rest : List Char} : ReadsEscape strict ('\r' :: '\n' :: rest) [] rest

/-- A literal behind its opening quote: the text, the units of its value, and what follows its
closing quote.  Of the line ends, the separators of lines and paragraphs may stand in it bare. -/
inductive ReadsBody (strict : Bool) : List Char → List Nat → List Char → Prop
  | close {rest : List Char} : ReadsBody strict ('\'' :: rest) [] rest
  | plain {c : Char} {text rest : List Char} {value : List Nat} (hquote : c ≠ '\'')
      (hslash : c ≠ '\\') (hfeed : c ≠ '\n') (hreturn : c ≠ '\r')
      (hbody : ReadsBody strict text value rest) :
      ReadsBody strict (c :: text) (Json.units c ++ value) rest
  | escape {text behind rest : List Char} {units value : List Nat}
      (hescape : ReadsEscape strict text units behind) (hbody : ReadsBody strict behind value rest) :
      ReadsBody strict ('\\' :: text) (units ++ value) rest

/-- A single-quoted literal at the start of a text, its value, and what follows it. -/
inductive ReadsLiteral (strict : Bool) : List Char → List Nat → List Char → Prop
  | mk {text rest : List Char} {value : List Nat} (hbody : ReadsBody strict text value rest) :
      ReadsLiteral strict ('\'' :: text) value rest

variable {strict : Bool}

/-- An escape of one character is nothing else besides. -/
theorem apart_of_singleEscape? {c spelled : Char} (hspelled : singleEscape? c = some spelled) :
    isOctalDigit c = false ∧ c ≠ 'x' ∧ c ≠ 'u' ∧ isLineEnd c = false := by
  unfold singleEscape? at hspelled
  split at hspelled
  case h_10 => cases hspelled
  all_goals exact ⟨rfl, by decide, by decide, rfl⟩

theorem readsEscape_iff_of_single {c spelled : Char} (hspelled : singleEscape? c = some spelled)
    (behind : List Char) {value : List Nat} {rest : List Char} :
    ReadsEscape strict (c :: behind) value rest ↔
      value = Json.units spelled ∧ rest = behind := by
  obtain ⟨hoctal, hx, hu, hline⟩ := apart_of_singleEscape? hspelled
  constructor
  · intro hread
    cases hread with
    | single hother =>
        rw [hspelled, Option.some.injEq] at hother
        exact ⟨by rw [hother], rfl⟩
    | itself hsingle =>
        rw [hspelled] at hsingle
        cases hsingle
    | octal hdigits =>
        obtain ⟨first, digits, hcons⟩ := List.exists_cons_of_ne_nil hdigits.filled
        have hfirst := hdigits.octal first (hcons ▸ List.mem_cons_self)
        have hsplit := hdigits.split
        rw [hcons, List.cons_append, List.cons.injEq] at hsplit
        rw [← hsplit.1, hoctal] at hfirst
        cases hfirst
    | hex => exact absurd rfl hx
    | unit => exact absurd rfl hu
    | point => exact absurd rfl hu
    | lineEnd hend =>
        rw [hline] at hend
        cases hend
    | returnFeed => cases hline
  · rintro ⟨rfl, rfl⟩
    exact .single hspelled

theorem readsBody_close_iff {behind : List Char} {value : List Nat} {rest : List Char} :
    ReadsBody strict ('\'' :: behind) value rest ↔ value = [] ∧ rest = behind := by
  constructor
  · intro hread
    cases hread with
    | close => exact ⟨rfl, rfl⟩
    | plain hquote => exact absurd rfl hquote
  · rintro ⟨rfl, rfl⟩
    exact .close

theorem readsBody_plain_iff {c : Char} (hquote : c ≠ '\'') (hslash : c ≠ '\\') (hfeed : c ≠ '\n')
    (hreturn : c ≠ '\r') {behind : List Char} {value : List Nat} {rest : List Char} :
    ReadsBody strict (c :: behind) value rest ↔
      ∃ others, value = Json.units c ++ others ∧ ReadsBody strict behind others rest := by
  constructor
  · intro hread
    cases hread with
    | close => exact absurd rfl hquote
    | plain _ _ _ _ hbody => exact ⟨_, rfl, hbody⟩
    | escape => exact absurd rfl hslash
  · rintro ⟨others, rfl, hbody⟩
    exact .plain hquote hslash hfeed hreturn hbody

theorem readsBody_escape_iff {c spelled : Char} (hspelled : singleEscape? c = some spelled)
    {behind : List Char} {value : List Nat} {rest : List Char} :
    ReadsBody strict ('\\' :: c :: behind) value rest ↔
      ∃ others, value = Json.units spelled ++ others ∧ ReadsBody strict behind others rest := by
  constructor
  · intro hread
    cases hread with
    | plain _ hslash => exact absurd rfl hslash
    | escape hescape hbody =>
        obtain ⟨rfl, rfl⟩ := (readsEscape_iff_of_single hspelled behind).mp hescape
        exact ⟨_, rfl, hbody⟩
  · rintro ⟨others, rfl, hbody⟩
    exact .escape (.single hspelled) hbody

/-- However a character is written, it is read as itself. -/
theorem readsBody_escaped_iff (c : Char) {behind : List Char} {value : List Nat}
    {rest : List Char} :
    ReadsBody strict (escaped c ++ behind) value rest ↔
      ∃ others, value = Json.units c ++ others ∧ ReadsBody strict behind others rest := by
  unfold escaped
  split_ifs with hslash hquote hfeed hreturn
  · subst hslash
    exact readsBody_escape_iff rfl
  · subst hquote
    exact readsBody_escape_iff rfl
  · subst hfeed
    exact readsBody_escape_iff rfl
  · subst hreturn
    exact readsBody_escape_iff rfl
  · exact readsBody_plain_iff hquote hslash hfeed hreturn

theorem readsBody_flatMap_escaped_iff (text : List Char) {behind : List Char} {value : List Nat}
    {rest : List Char} :
    ReadsBody strict (text.flatMap escaped ++ '\'' :: behind) value rest ↔
      value = text.flatMap Json.units ∧ rest = behind := by
  induction text generalizing value with
  | nil => exact readsBody_close_iff
  | cons c text ih =>
      rw [List.flatMap_cons, List.append_assoc, readsBody_escaped_iff, List.flatMap_cons]
      constructor
      · rintro ⟨others, rfl, hbody⟩
        obtain ⟨rfl, rfl⟩ := ih.mp hbody
        exact ⟨rfl, rfl⟩
      · rintro ⟨rfl, rfl⟩
        exact ⟨_, rfl, ih.mpr ⟨rfl, rfl⟩⟩

/-- The UTF-16 units of a text. -/
def unitsOf (text : String) : List Nat :=
  text.toList.flatMap Json.units

theorem units_append_inj {c d : Char} {first second : List Nat}
    (heq : Json.units c ++ first = Json.units d ++ second) : c = d ∧ first = second := by
  have hc : c.toNat < 0xD800 ∨ 0xDFFF < c.toNat ∧ c.toNat < 0x110000 := c.valid
  have hd : d.toNat < 0xD800 ∨ 0xDFFF < d.toNat ∧ d.toNat < 0x110000 := d.valid
  suffices hsame : c.toNat = d.toNat ∧ first = second from ⟨Char.toNat_inj.mp hsame.1, hsame.2⟩
  -- a unit that stands alone is no first half of a pair
  unfold Json.units at heq
  dsimp only at heq
  split_ifs at heq <;>
    simp only [List.cons_append, List.nil_append, List.cons.injEq] at heq
  · exact heq
  · omega
  · omega
  · exact ⟨by omega, heq.2.2⟩

theorem unitsOf_injective {first second : String} (heq : unitsOf first = unitsOf second) :
    first = second := by
  unfold unitsOf at heq
  rw [← String.toList_inj]
  generalize first.toList = text at heq
  generalize second.toList = other at heq
  have hne (c : Char) : Json.units c ≠ [] := by
    unfold Json.units
    dsimp only
    split_ifs <;> simp
  induction text generalizing other with
  | nil =>
      cases other with
      | nil => rfl
      | cons d other => simp [hne] at heq
  | cons c text ih =>
      cases other with
      | nil => simp [hne] at heq
      | cons d other =>
          rw [List.flatMap_cons, List.flatMap_cons] at heq
          obtain ⟨rfl, hrest⟩ := units_append_inj heq
          rw [ih other hrest]

/-- In front of any text, the literal of a text is read in one way only, as the grammar has it: up to
its own end, and with the units of the text as its value.  These are the units of no other text. -/
theorem readsLiteral_quote_iff (strict : Bool) (text following : String) :
    (∀ (value : List Nat) (rest : List Char),
      ReadsLiteral strict (quote text ++ following).toList value rest ↔
        value = unitsOf text ∧ rest = following.toList) ∧
    ∀ other, unitsOf other = unitsOf text → other = text := by
  refine ⟨fun value rest => ?_, fun _ => unitsOf_injective⟩
  have htext : (quote text ++ following).toList =
      '\'' :: (text.toList.flatMap escaped ++ '\'' :: following.toList) := by
    simp [String.toList_append, encode]
  rw [htext, unitsOf, ← readsBody_flatMap_escaped_iff]
  exact ⟨fun ⟨hbody⟩ => hbody, .mk⟩

/-! Properties. -/

/-- What stands behind the object. -/
def accessText (name : List Char) : List Char :=
  if isPlainName name then '.' :: name else '[' :: encode name ++ [']']

theorem toList_member (object name : String) :
    (member object name).toList = object.toList ++ accessText name.toList := by
  unfold member accessText
  split <;> simp [String.toList_append]

/-- The key of a name, as characters. -/
def keyText (name : List Char) : List Char :=
  if isPlainName name then name else encode name

theorem toList_key (name : String) : (key name).toList = keyText name.toList := by
  unfold key keyText
  split
  · rfl
  · exact toList_quote name

theorem length_lt_length_accessText (name : List Char) :
    name.length < (accessText name).length := by
  have hencode := length_le_length_encode name
  unfold accessText
  split_ifs <;> simp only [List.length_cons, List.cons_append, List.length_append] <;> omega

theorem isNamePart_of_isPlainName {name : List Char} (hplain : isPlainName name = true) :
    ∀ c ∈ name, isNamePart c = true ∨ c = '\n' := by
  cases name with
  | nil => simp
  | cons c rest =>
      simp only [isPlainName, isPlainName.endsPlain, Bool.and_eq_true, Bool.or_eq_true,
        List.all_eq_true, beq_iff_eq] at hplain
      obtain ⟨hstart, hrest⟩ := hplain
      intro d hd
      rcases List.mem_cons.mp hd with rfl | hd
      · exact .inl (by simp [isNamePart, hstart])
      · rcases hrest with hall | ⟨hlast, hall⟩
        · exact .inl (hall d hd)
        · obtain ⟨before, rfl⟩ := List.getLast?_eq_some_iff.mp hlast
          rw [List.dropLast_concat] at hall
          rcases List.mem_append.mp hd with hd | hd
          · exact .inl (hall d hd)
          · exact .inr (List.mem_singleton.mp hd)

theorem exists_cons_of_isPlainName {name : List Char} (hplain : isPlainName name = true) :
    ∃ c rest, name = c :: rest ∧ isNameStart c = true := by
  cases name with
  | nil => cases hplain
  | cons c rest => exact ⟨c, rest, rfl, (Bool.and_eq_true_iff.mp hplain).1⟩

/-- Two names have one access text only when they are the same; accesses further inside do not
change that. -/
theorem accessText_append_inj {first second accesses : List Char}
    (haccesses : ∀ c, accesses.head? = some c → isNamePart c = false ∧ c ≠ '\n')
    (heq : accessText first ++ accesses = accessText second) :
    first = second ∧ accesses = [] := by
  unfold accessText at heq
  split_ifs at heq with hfirst hsecond hsecond
  · simp only [List.cons_append, List.cons.injEq, true_and] at heq
    cases accesses with
    | nil => exact ⟨by simpa using heq, rfl⟩
    | cons c rest =>
        -- a plain name has no such character
        obtain ⟨hpart, hline⟩ := haccesses c rfl
        rcases isNamePart_of_isPlainName hsecond c (by simp [← heq]) with hname | hname
        · exact absurd hname (by simp [hpart])
        · exact absurd hname hline
  · simp at heq
  · simp at heq
  · simp only [List.cons_append, List.append_assoc, List.cons.injEq, true_and] at heq
    obtain ⟨rfl, hrest⟩ := encode_append_inj heq
    exact ⟨rfl, by simpa using hrest⟩

end Script

end ScreenFlow
