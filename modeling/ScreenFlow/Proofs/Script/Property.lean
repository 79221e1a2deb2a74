import ScreenFlow.Proofs.Script.Quoted
import ScreenFlow.Scope
import Mathlib.Data.List.TakeWhile

/-!
Properties read back by the grammar of the script: from a key in front of its colon, and from the
accesses behind a variable, with white space and line ends between the tokens.  A name is read back
as it is, unless it is a plain name with a line feed behind it; then the line feed is taken for white
space, and the property is that of the plain name.
-/

namespace ScreenFlow

namespace Script

/-! Tokens. -/

/-- White space and line ends of a script. -/
def isSpace (c : Char) : Bool :=
  let n := c.toNat
  (9 ≤ n && n ≤ 13) || n == 0x20 || n == 0xA0 || n == 0x1680 || (0x2000 ≤ n && n ≤ 0x200A) ||
    n == 0x2028 || n == 0x2029 || n == 0x202F || n == 0x205F || n == 0x3000 || n == 0xFEFF

def skipSpace (text : List Char) : List Char :=
  text.dropWhile isSpace

theorem skipSpace_cons {c : Char} (rest : List Char) (hc : isSpace c = false) :
    skipSpace (c :: rest) = c :: rest :=
  List.dropWhile_cons_of_neg (by simp [hc])

theorem skipSpace_append_of_nil {text : List Char} (rest : List Char) (hblank : skipSpace text = []) :
    skipSpace (text ++ rest) = skipSpace rest := by
  unfold skipSpace at hblank ⊢
  rw [List.dropWhile_append, hblank]
  rfl

theorem skipSpace_append_of_ne_nil {text : List Char} (rest : List Char)
    (hne : skipSpace text ≠ []) : skipSpace (text ++ rest) = skipSpace text ++ rest := by
  unfold skipSpace at hne ⊢
  rw [List.dropWhile_append, if_neg (by simpa only [List.isEmpty_iff] using hne)]

/-- A name without escapes, of ASCII letters. -/
def isName : List Char → Bool
  | [] => false
  | c :: rest => isNameStart c && rest.all isNamePart

/-- The name at the start of a text, as long as it goes on, and what follows it. -/
def name? (text : List Char) : Option (List Char × List Char) :=
  if isName (text.takeWhile isNamePart) then
    some (text.takeWhile isNamePart, text.dropWhile isNamePart)
  else none

theorem ne_nil_of_name? {text : List Char} {found : List Char × List Char}
    (hfound : name? text = some found) : text ≠ [] := by
  rintro rfl
  cases hfound

/-- The text of a string literal behind its opening quote, and what follows the closing one.  No line
end stands in it bare. -/
def stringTail? (quote : Char) : List Char → Option (List Char × List Char)
  | [] => none
  | '\\' :: '\r' :: '\n' :: rest => stringTail? quote rest
  | '\\' :: c :: rest => do
      let spelled ← templateEscape? c
      let (text, after) ← stringTail? quote rest
      return (spelled ++ text, after)
  | c :: rest =>
      if c = quote then some ([], rest)
      else if c = '\n' || c = '\r' then none
      else (stringTail? quote rest).map fun found => (c :: found.1, found.2)

def string? : List Char → Option (List Char × List Char)
  | [] => none
  | c :: rest => if c = '\'' || c = '"' then stringTail? c rest else none

theorem ne_nil_of_string? {text : List Char} {found : List Char × List Char}
    (hfound : string? text = some found) : text ≠ [] := by
  rintro rfl
  cases hfound

/-! Keys and accesses. -/

/-- The property at the start of an object literal's entry, and what follows its colon. -/
def property? (text : List Char) : Option (List Char × List Char) := do
  let (name, rest) ← (name? (skipSpace text)).or (string? (skipSpace text))
  match skipSpace rest with
  | ':' :: value => return (name, value)
  | _ => none

/-- The property behind a dot or in brackets, and what follows. -/
def access? (text : List Char) : Option (List Char × List Char) :=
  match skipSpace text with
  | '.' :: rest => name? (skipSpace rest)
  | '[' :: rest => do
      let (name, rest) ← string? (skipSpace rest)
      match skipSpace rest with
      | ']' :: after => return (name, after)
      | _ => none
  | _ => none

/-- The properties that a text reads, one inside the other. -/
inductive IsAccesses : List Char → List (List Char) → Prop
  | nil {text : List Char} : skipSpace text = [] → IsAccesses text []
  | cons {text name rest : List Char} {names : List (List Char)} :
      access? text = some (name, rest) → IsAccesses rest names → IsAccesses text (name :: names)

/-- A variable, and the properties read behind it. -/
inductive IsPath (text : List Char) : List (List Char) → Prop
  | mk {root rest : List Char} {names : List (List Char)} :
      name? (skipSpace text) = some (root, rest) → IsAccesses rest names →
        IsPath text (root :: names)

theorem property?_of_token {text name rest value : List Char}
    (hfound : (name? (skipSpace text)).or (string? (skipSpace text)) = some (name, rest))
    (hcolon : skipSpace rest = ':' :: value) : property? text = some (name, value) := by
  simp only [property?, hfound, Option.bind_eq_bind, Option.bind_some, hcolon]
  rfl

theorem access?_eq_some_iff {text name rest : List Char} :
    access? text = some (name, rest) ↔
      (∃ after, skipSpace text = '.' :: after ∧ name? (skipSpace after) = some (name, rest)) ∨
        ∃ after behind, skipSpace text = '[' :: after ∧
          string? (skipSpace after) = some (name, behind) ∧ skipSpace behind = ']' :: rest := by
  constructor
  · intro hfound
    unfold access? at hfound
    split at hfound
    · next after hdot => exact .inl ⟨after, hdot, hfound⟩
    · next after hbracket =>
        obtain ⟨⟨string, behind⟩, hstring, hclose⟩ := Option.bind_eq_some_iff.mp hfound
        dsimp only at hclose
        split at hclose
        · next last hlast =>
            cases hclose
            exact .inr ⟨after, behind, hbracket, hstring, hlast⟩
        · cases hclose
    · cases hfound
  · rintro (⟨after, hdot, hname⟩ | ⟨after, behind, hbracket, hstring, hclose⟩)
    · simp only [access?, hdot, hname]
    · simp only [access?, hbracket, hstring, Option.bind_eq_bind, Option.bind_some, hclose]
      rfl

theorem skipSpace_ne_nil_of_access? {text name rest : List Char}
    (hfound : access? text = some (name, rest)) : skipSpace text ≠ [] := by
  rcases access?_eq_some_iff.mp hfound with ⟨after, hdot, -⟩ | ⟨after, behind, hbracket, -⟩
  · simp [hdot]
  · simp [hbracket]

theorem IsAccesses.unique {text : List Char} {names others : List (List Char)}
    (hnames : IsAccesses text names) (hothers : IsAccesses text others) : names = others := by
  induction hnames generalizing others with
  | nil hblank =>
      cases hothers with
      | nil => rfl
      | cons hfound => exact absurd hblank (skipSpace_ne_nil_of_access? hfound)
  | cons hfound _ ih =>
      cases hothers with
      | nil hblank => exact absurd hblank (skipSpace_ne_nil_of_access? hfound)
      | cons hother hrest =>
          obtain ⟨rfl, rfl⟩ := Prod.mk.inj (Option.some.inj (hfound.symm.trans hother))
          rw [ih hrest]

theorem IsPath.unique {text : List Char} {path other : List (List Char)}
    (hpath : IsPath text path) (hother : IsPath text other) : path = other := by
  obtain ⟨hroot, hnames⟩ := hpath
  obtain ⟨hfound, hothers⟩ := hother
  obtain ⟨rfl, rfl⟩ := Prod.mk.inj (Option.some.inj (hroot.symm.trans hfound))
  rw [hnames.unique hothers]

/-! What was read is read the same in front of a further text. -/

theorem name?_append (text : List Char) {tail : List Char}
    (htail : ∀ c, tail.head? = some c → isNamePart c = false) :
    name? (text ++ tail) = (name? text).map fun found => (found.1, found.2 ++ tail) := by
  have htake : (text ++ tail).takeWhile isNamePart = text.takeWhile isNamePart := by
    cases tail with
    | nil => rw [List.append_nil]
    | cons c tail =>
        have hc := htail c rfl
        rw [List.takeWhile_append]
        split
        · next hall =>
            rw [List.takeWhile_cons_of_neg (by simp [hc]), List.append_nil,
              (List.takeWhile_prefix _).eq_of_length hall]
        · rfl
  have hdrop : (text ++ tail).dropWhile isNamePart = text.dropWhile isNamePart ++ tail := by
    have hsplit := List.takeWhile_append_dropWhile (p := isNamePart) (l := text ++ tail)
    rw [htake] at hsplit
    rw [← List.append_cancel_left_eq (text.takeWhile isNamePart), hsplit, ← List.append_assoc,
      List.takeWhile_append_dropWhile]
  unfold name?
  rw [htake, hdrop]
  split <;> rfl

theorem stringTail?_cons {quote c : Char} (rest : List Char) (hslash : c ≠ '\\') :
    stringTail? quote (c :: rest) =
      if c = quote then some ([], rest)
      else if c = '\n' || c = '\r' then none
      else (stringTail? quote rest).map fun found => (c :: found.1, found.2) := by
  rw [stringTail?]
  · rintro after rfl -
    exact hslash rfl
  · rintro d after rfl -
    exact hslash rfl

theorem stringTail?_append {quote : Char} (hquote : quote ≠ '\\') {text string rest : List Char}
    (tail : List Char) (hfound : stringTail? quote text = some (string, rest)) :
    stringTail? quote (text ++ tail) = some (string, rest ++ tail) := by
  fun_induction stringTail? quote text generalizing string rest with
  | case1 => cases hfound
  | case2 text ih => exact ih hfound
  | case3 c text hline ih =>
      simp only [Option.bind_eq_bind, Option.bind_eq_some_iff] at hfound
      obtain ⟨spelled, hspelled, ⟨found, after⟩, htail, heq⟩ := hfound
      cases heq
      rw [List.cons_append, List.cons_append, stringTail?]
      · rw [hspelled, ih htail]
        rfl
      · -- a line feed behind the carriage return would have been read with it
        rintro following rfl hfollowing
        cases text with
        | nil => cases htail
        | cons d text =>
            cases hfollowing
            exact hline text rfl rfl
  | case4 text =>
      cases hfound
      rw [List.cons_append, stringTail?_cons _ hquote, if_pos rfl]
  | case5 => cases hfound
  | case6 c text hreturn hescape hc hbare ih =>
      obtain ⟨⟨found, after⟩, htail, heq⟩ := Option.map_eq_some_iff.mp hfound
      cases heq
      have hslash : c ≠ '\\' := by
        rintro rfl
        cases text with
        | nil => cases htail
        | cons d text => exact hescape d text rfl rfl
      rw [List.cons_append, stringTail?_cons _ hslash, if_neg hc, if_neg hbare, ih htail]
      rfl

theorem string?_append {text string rest : List Char} (tail : List Char)
    (hfound : string? text = some (string, rest)) :
    string? (text ++ tail) = some (string, rest ++ tail) := by
  cases text with
  | nil => cases hfound
  | cons c text =>
      rw [string?] at hfound
      split_ifs at hfound with hquote
      have hslash : c ≠ '\\' := by
        rintro rfl
        simp at hquote
      rw [List.cons_append, string?, if_pos hquote]
      exact stringTail?_append hslash tail hfound

/-- What stands behind an object starts with a dot or a bracket. -/
def StartsAccess (tail : List Char) : Prop :=
  ∀ c, tail.head? = some c → c = '.' ∨ c = '['

theorem not_isNamePart_of_startsAccess {tail : List Char} (htail : StartsAccess tail) (c : Char)
    (hhead : tail.head? = some c) : isNamePart c = false := by
  rcases htail c hhead with rfl | rfl <;> rfl

theorem access?_append {text name rest tail : List Char} (htail : StartsAccess tail)
    (hfound : access? text = some (name, rest)) :
    access? (text ++ tail) = some (name, rest ++ tail) := by
  have hskip {read : List Char} {c : Char} {after : List Char}
      (hread : skipSpace read = c :: after) : skipSpace (read ++ tail) = c :: (after ++ tail) := by
    rw [skipSpace_append_of_ne_nil tail (by simp [hread]), hread, List.cons_append]
  rcases access?_eq_some_iff.mp hfound with
    ⟨after, hdot, hname⟩ | ⟨after, behind, hbracket, hstring, hclose⟩
  · refine access?_eq_some_iff.mpr (.inl ⟨after ++ tail, hskip hdot, ?_⟩)
    rw [skipSpace_append_of_ne_nil tail (ne_nil_of_name? hname),
      name?_append _ (not_isNamePart_of_startsAccess htail), hname]
    rfl
  · refine access?_eq_some_iff.mpr (.inr ⟨after ++ tail, behind ++ tail, hskip hbracket, ?_,
      hskip hclose⟩)
    rw [skipSpace_append_of_ne_nil tail (ne_nil_of_string? hstring)]
    exact string?_append tail hstring

theorem IsAccesses.append {text tail : List Char} {names others : List (List Char)}
    (hnames : IsAccesses text names) (htail : StartsAccess tail) (hothers : IsAccesses tail others) :
    IsAccesses (text ++ tail) (names ++ others) := by
  induction hnames with
  | nil hblank =>
      have hskip := skipSpace_append_of_nil tail hblank
      cases hothers with
      | nil hrest => exact .nil (hskip.trans hrest)
      | cons hfound hrest =>
          refine .cons ?_ hrest
          rw [access?, hskip, ← access?, hfound]
  | cons hfound _ ih => exact .cons (access?_append htail hfound) ih

theorem IsPath.append {text tail : List Char} {path names : List (List Char)}
    (hpath : IsPath text path) (htail : StartsAccess tail) (hnames : IsAccesses tail names) :
    IsPath (text ++ tail) (path ++ names) := by
  obtain ⟨hroot, hrest⟩ := hpath
  refine .mk ?_ (hrest.append htail hnames)
  rw [skipSpace_append_of_ne_nil tail (ne_nil_of_name? hroot),
    name?_append _ (not_isNamePart_of_startsAccess htail), hroot]
  rfl

/-! Names that are written. -/

theorem stringTail?_escape {quote : Char} (c : Char) {spelled : Char} (rest : List Char)
    (hspelled : templateEscape? c = some [spelled]) (hreturn : c ≠ '\r') :
    stringTail? quote ('\\' :: c :: rest) =
      (stringTail? quote rest).map fun found => (spelled :: found.1, found.2) := by
  rw [stringTail?]
  · rw [hspelled]
    cases stringTail? quote rest <;> rfl
  · rintro after rfl -
    exact hreturn rfl

theorem stringTail?_escaped (c : Char) (rest : List Char) :
    stringTail? '\'' (escaped c ++ rest) =
      (stringTail? '\'' rest).map fun found => (c :: found.1, found.2) := by
  unfold escaped
  split_ifs with hslash hquote hfeed hreturn
  · subst hslash
    exact stringTail?_escape '\\' rest rfl (by decide)
  · subst hquote
    exact stringTail?_escape '\'' rest rfl (by decide)
  · subst hfeed
    exact stringTail?_escape 'n' rest rfl (by decide)
  · subst hreturn
    exact stringTail?_escape 'r' rest rfl (by decide)
  · rw [List.singleton_append, stringTail?_cons rest hslash, if_neg hquote,
      if_neg (by simp [hfeed, hreturn])]

theorem string?_encode (text rest : List Char) :
    string? (encode text ++ rest) = some (text, rest) := by
  have htail : stringTail? '\'' (text.flatMap escaped ++ '\'' :: rest) = some (text, rest) := by
    induction text with
    | nil => rfl
    | cons c text ih =>
        rw [List.flatMap_cons, List.append_assoc, stringTail?_escaped, ih]
        rfl
  rw [← htail]
  simp [string?, encode]

theorem toNat_of_isNameStart {c : Char} (hstart : isNameStart c = true) :
    (65 ≤ c.toNat ∧ c.toNat ≤ 90) ∨ (97 ≤ c.toNat ∧ c.toNat ≤ 122) ∨ c.toNat = 95 ∨
      c.toNat = 36 := by
  simp only [isNameStart, Bool.or_eq_true, Bool.and_eq_true, decide_eq_true_eq] at hstart
  rcases hstart with ((hcapital | hsmall) | rfl) | rfl
  · exact .inl hcapital
  · exact .inr (.inl hsmall)
  · exact .inr (.inr (.inl rfl))
  · exact .inr (.inr (.inr rfl))

theorem isSpace_of_isNameStart {c : Char} (hstart : isNameStart c = true) : isSpace c = false := by
  have hrange := toNat_of_isNameStart hstart
  simp only [isSpace, Bool.or_eq_false_iff, Bool.and_eq_false_iff, decide_eq_false_iff_not,
    beq_eq_false_iff_ne]
  omega

theorem all_isNamePart_of_isName {name : List Char} (hname : isName name = true) :
    name.all isNamePart = true := by
  cases name with
  | nil => rfl
  | cons c rest =>
      obtain ⟨hstart, hrest⟩ := Bool.and_eq_true_iff.mp hname
      simp [isNamePart, hstart, hrest]

theorem name?_of_isName {name : List Char} (hname : isName name = true) :
    name? name = some (name, []) := by
  have hall := List.all_eq_true.mp (all_isNamePart_of_isName hname)
  have htake : name.takeWhile isNamePart = name := List.takeWhile_eq_self_iff.mpr hall
  have hdrop : name.dropWhile isNamePart = [] := List.dropWhile_eq_nil_iff.mpr hall
  rw [name?, htake, hdrop, if_pos hname]

/-- A name with a line feed behind it. -/
def RunsOver (name : List Char) : Prop :=
  name.getLast? = some '\n' ∧ isName name.dropLast = true

instance (name : List Char) : Decidable (RunsOver name) :=
  inferInstanceAs (Decidable (_ ∧ _))

/-- The name without the line feed that runs over it. -/
def readAs (name : List Char) : List Char :=
  if RunsOver name then name.dropLast else name

theorem runsOver_iff {name : List Char} :
    RunsOver name ↔ ∃ plain, isName plain = true ∧ name = plain ++ ['\n'] := by
  constructor
  · rintro ⟨hlast, hname⟩
    obtain ⟨plain, rfl⟩ := List.getLast?_eq_some_iff.mp hlast
    rw [List.dropLast_concat] at hname
    exact ⟨plain, hname, rfl⟩
  · rintro ⟨plain, hname, rfl⟩
    exact ⟨List.getLast?_concat, by rwa [List.dropLast_concat]⟩

theorem readAs_concat {plain : List Char} (hname : isName plain = true) :
    readAs (plain ++ ['\n']) = plain := by
  rw [readAs, if_pos (runsOver_iff.mpr ⟨plain, hname, rfl⟩), List.dropLast_concat]

theorem readAs_eq_self_iff {name : List Char} : readAs name = name ↔ ¬RunsOver name := by
  unfold readAs
  split
  · next hover =>
      obtain ⟨plain, -, rfl⟩ := runsOver_iff.mp hover
      simp [hover]
  · next hover => simp [hover]

theorem isPlainName_iff {name : List Char} :
    isPlainName name = true ↔ isName name = true ∨ RunsOver name := by
  cases name with
  | nil => simp [isPlainName, isName, RunsOver]
  | cons c rest =>
      cases rest with
      | nil => simp [isPlainName, isPlainName.endsPlain, isName, RunsOver]
      | cons d rest =>
          have hlast : (c :: d :: rest).getLast? = (d :: rest).getLast? := List.getLast?_cons_cons
          rw [isPlainName, isPlainName.endsPlain, RunsOver, hlast, List.dropLast_cons_cons, isName,
            isName]
          simp only [Bool.and_eq_true, Bool.or_eq_true, beq_iff_eq]
          rw [and_or_left, and_left_comm]

theorem not_runsOver_of_isName {name : List Char} (hname : isName name = true) :
    ¬RunsOver name := by
  intro hover
  obtain ⟨plain, -, rfl⟩ := runsOver_iff.mp hover
  have hfeed : isNamePart '\n' = true :=
    List.all_eq_true.mp (all_isNamePart_of_isName hname) '\n' (by simp)
  cases hfeed

theorem readAs_of_isName {name : List Char} (hname : isName name = true) : readAs name = name :=
  readAs_eq_self_iff.mpr (not_runsOver_of_isName hname)

/-- A plain name is what it is read as, with white space behind it at the most. -/
theorem exists_of_isPlainName {name : List Char} (hplain : isPlainName name = true) :
    ∃ blank, name = readAs name ++ blank ∧ isName (readAs name) = true ∧ skipSpace blank = [] ∧
      ∀ c, blank.head? = some c → isNamePart c = false := by
  rcases isPlainName_iff.mp hplain with hname | hover
  · have hself := readAs_of_isName hname
    exact ⟨[], by rw [hself, List.append_nil], by rwa [hself], rfl, by simp⟩
  · obtain ⟨plain, hname, rfl⟩ := runsOver_iff.mp hover
    rw [readAs_concat hname]
    refine ⟨['\n'], rfl, hname, rfl, ?_⟩
    rintro c ⟨⟩
    rfl

theorem name?_of_isPlainName {name tail : List Char} (hplain : isPlainName name = true)
    (htail : ∀ c, tail.head? = some c → isNamePart c = false) :
    ∃ blank, name? (skipSpace (name ++ tail)) = some (readAs name, blank ++ tail) ∧
      skipSpace blank = [] := by
  obtain ⟨c, rest, hcons, hstart⟩ := exists_cons_of_isPlainName hplain
  have hskip : skipSpace (name ++ tail) = name ++ tail := by
    rw [hcons, List.cons_append, skipSpace_cons _ (isSpace_of_isNameStart hstart)]
  obtain ⟨blank, hname, hread, hblank, hhead⟩ := exists_of_isPlainName hplain
  refine ⟨blank, ?_, hblank⟩
  have hbehind : ∀ c, (blank ++ tail).head? = some c → isNamePart c = false := by
    intro c hc
    cases blank with
    | nil => exact htail c hc
    | cons d blank => exact hhead c hc
  rw [hskip]
  calc name? (name ++ tail)
      = name? (readAs name ++ (blank ++ tail)) := by rw [← List.append_assoc, ← hname]
    _ = some (readAs name, blank ++ tail) := by
        rw [name?_append _ hbehind, name?_of_isName hread]
        rfl

theorem skipSpace_encode (text rest : List Char) :
    skipSpace (encode text ++ rest) = encode text ++ rest := by
  rw [encode, List.cons_append, List.cons_append, skipSpace_cons _ (by decide)]

theorem name?_encode (text rest : List Char) : name? (encode text ++ rest) = none := by
  rw [encode, List.cons_append, List.cons_append, name?, List.takeWhile_cons_of_neg (by decide)]
  rfl

theorem readAs_of_not_isPlainName {name : List Char} (hplain : isPlainName name ≠ true) :
    readAs name = name :=
  readAs_eq_self_iff.mpr fun hover => hplain (isPlainName_iff.mpr (.inr hover))

theorem property?_keyText (name value : List Char) :
    property? (keyText name ++ ':' :: value) = some (readAs name, value) := by
  have hcolon : skipSpace (':' :: value) = ':' :: value := skipSpace_cons _ (by decide)
  unfold keyText
  split
  · next hplain =>
      have hhead : ∀ c, (':' :: value).head? = some c → isNamePart c = false := by
        rintro c ⟨⟩
        rfl
      obtain ⟨blank, hname, hblank⟩ := name?_of_isPlainName hplain hhead
      have hskip : skipSpace (blank ++ ':' :: value) = ':' :: value := by
        rw [skipSpace_append_of_nil _ hblank, hcolon]
      exact property?_of_token (by rw [hname]; rfl) hskip
  · next hplain =>
      rw [readAs_of_not_isPlainName hplain]
      refine property?_of_token ?_ hcolon
      rw [skipSpace_encode, name?_encode, string?_encode]
      rfl

theorem startsAccess_accessText (name : List Char) : StartsAccess (accessText name) := by
  intro c hc
  unfold accessText at hc
  split at hc
  · cases hc
    exact .inl rfl
  · cases hc
    exact .inr rfl

theorem isAccesses_accessText (name : List Char) : IsAccesses (accessText name) [readAs name] := by
  unfold accessText
  split
  · next hplain =>
      have hhead : ∀ c, ([] : List Char).head? = some c → isNamePart c = false := by simp
      obtain ⟨blank, hname, hblank⟩ := name?_of_isPlainName hplain hhead
      rw [List.append_nil] at hname
      refine .cons (access?_eq_some_iff.mpr (.inl ⟨name, rfl, hname⟩)) (.nil ?_)
      rwa [List.append_nil]
  · next hplain =>
      rw [readAs_of_not_isPlainName hplain]
      have haccess : access? ('[' :: encode name ++ [']']) = some (name, []) := by
        refine access?_eq_some_iff.mpr (.inr ⟨encode name ++ [']'], [']'], ?_, ?_, rfl⟩)
        · exact skipSpace_cons _ (by decide)
        · rw [skipSpace_encode, string?_encode]
      exact .cons haccess (.nil rfl)

/-! Different names. -/

/-- One of the two names is plain, and the other is the same with a line feed behind it. -/
def LineFeedApart (name other : List Char) : Prop :=
  (isName name = true ∧ other = name ++ ['\n']) ∨ (isName other = true ∧ name = other ++ ['\n'])

theorem readAs_eq_iff {name other : List Char} (hne : other ≠ name) :
    readAs name = readAs other ↔ LineFeedApart name other := by
  constructor
  · intro hsame
    by_cases hover : RunsOver name
    · obtain ⟨plain, hplain, rfl⟩ := runsOver_iff.mp hover
      rw [readAs_concat hplain] at hsame
      by_cases hother : RunsOver other
      · obtain ⟨also, halso, rfl⟩ := runsOver_iff.mp hother
        rw [readAs_concat halso] at hsame
        exact absurd (by rw [hsame]) hne
      · rw [readAs_eq_self_iff.mpr hother] at hsame
        subst hsame
        exact .inr ⟨hplain, rfl⟩
    · rw [readAs_eq_self_iff.mpr hover] at hsame
      by_cases hother : RunsOver other
      · obtain ⟨plain, hplain, rfl⟩ := runsOver_iff.mp hother
        rw [readAs_concat hplain] at hsame
        subst hsame
        exact .inl ⟨hplain, rfl⟩
      · rw [readAs_eq_self_iff.mpr hother] at hsame
        exact absurd hsame.symm hne
  · rintro (⟨hname, rfl⟩ | ⟨hname, rfl⟩)
    · rw [readAs_of_isName hname, readAs_concat hname]
    · rw [readAs_of_isName hname, readAs_concat hname]

/-- Whatever value stands behind the colon, the key is that of the property. -/
def IsKeyOf (property : List Char) (key : String) : Prop :=
  ∀ value, property? (key.toList ++ ':' :: value) = some (property, value)

theorem isKeyOf_key_iff {property : List Char} {name : String} :
    IsKeyOf property (key name) ↔ property = readAs name.toList := by
  unfold IsKeyOf
  simp only [toList_key, property?_keyText, Option.some.injEq, Prod.mk.injEq, and_true, forall_const]
  exact eq_comm

theorem isPath_member_iff {object name : String} {path read : List (List Char)}
    (hobject : IsPath object.toList path) :
    IsPath (member object name).toList read ↔ read = path ++ [readAs name.toList] := by
  have hmember : IsPath (member object name).toList (path ++ [readAs name.toList]) := by
    rw [toList_member]
    exact hobject.append (startsAccess_accessText _) (isAccesses_accessText _)
  constructor
  · exact fun hread => hread.unique hmember
  · rintro rfl
    exact hmember

/-- The key of a name and the access to it behind an object are read back as the name, exactly when
the name is no plain one with a line feed behind it.  Two names share a property exactly when they
are a line feed apart. -/
theorem property_read_iff {object : String} {path : List (List Char)}
    (hobject : IsPath object.toList path) (name : String) :
    (IsKeyOf name.toList (key name) ↔ ¬RunsOver name.toList) ∧
      (IsPath (member object name).toList (path ++ [name.toList]) ↔ ¬RunsOver name.toList) ∧
      ∀ other : String, other ≠ name →
        ((∃ property, IsKeyOf property (key name) ∧ IsKeyOf property (key other)) ↔
          LineFeedApart name.toList other.toList) ∧
        ((∃ read, IsPath (member object name).toList read ∧
            IsPath (member object other).toList read) ↔
          LineFeedApart name.toList other.toList) := by
  refine ⟨?_, ?_, fun other hne => ?_⟩
  · rw [isKeyOf_key_iff, eq_comm, readAs_eq_self_iff]
  · rw [isPath_member_iff hobject, List.append_cancel_left_eq, List.cons.injEq,
      and_iff_left rfl, eq_comm, readAs_eq_self_iff]
  · have hlist : other.toList ≠ name.toList := fun heq => hne (String.toList_inj.mp heq)
    rw [← readAs_eq_iff hlist]
    constructor
    · simp only [isKeyOf_key_iff, exists_eq_left]
    · simp only [isPath_member_iff hobject, exists_eq_left, List.append_cancel_left_eq,
        List.cons.injEq, and_true]

theorem isPath_contextRoot : IsPath Scope.contextRoot.toList [['c', 't', 'x'], "data".toList] :=
  .mk rfl (.cons rfl (.nil rfl))

theorem isPath_storedRoot : IsPath Scope.storedRoot.toList [Scope.storedRoot.toList] :=
  .mk rfl (.nil rfl)

theorem property_read_guestCount :
    IsPath Scope.contextRoot.toList [['c', 't', 'x'], "data".toList] ∧
      IsKeyOf "guest count".toList (key "guest count") ∧
      IsPath (member Scope.contextRoot "guest count").toList
        [['c', 't', 'x'], "data".toList, "guest count".toList] := by
  have hread := property_read_iff isPath_contextRoot "guest count"
  have hover : ¬RunsOver "guest count".toList := by decide
  exact ⟨isPath_contextRoot, hread.1.mpr hover, hread.2.1.mpr hover⟩

theorem property_shared_line_feed :
    "id\n" ≠ "id" ∧ IsKeyOf "id".toList (key "id\n") ∧ IsKeyOf "id".toList (key "id") ∧
      ∀ read, IsPath (member Scope.storedRoot "id\n").toList read ↔
        IsPath (member Scope.storedRoot "id").toList read := by
  have hsame : readAs "id\n".toList = "id".toList := by decide
  have hplain : readAs "id".toList = "id".toList := by decide
  refine ⟨by decide, isKeyOf_key_iff.mpr hsame.symm, isKeyOf_key_iff.mpr hplain.symm,
    fun read => ?_⟩
  rw [isPath_member_iff isPath_storedRoot, isPath_member_iff isPath_storedRoot, hsame, hplain]

end Script

end ScreenFlow
