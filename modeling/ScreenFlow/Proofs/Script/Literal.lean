import ScreenFlow.Proofs.Data.Digits
import ScreenFlow.Proofs.Script.Quoted
import ScreenFlow.Script.Literal

/-!
One value for each literal.  The literal of plain data shows where it ends, so that two values nested
to any depth have one literal only when they are the same value.
-/

namespace ScreenFlow

namespace Value

/-- Null, truth values, whole numbers, strings that are no placeholder markers, and lists and maps of
such values, the maps with names for keys. -/
inductive IsPlain : Value → Prop
  | null : IsPlain .null
  | bool (value : Bool) : IsPlain (.bool value)
  | int (value : Int) : IsPlain (.int value)
  | text {value : String} (hmarker : Placeholder.ofMarker? value = none) : IsPlain (.text value)
  | list {items : List Value} (hitems : ∀ item ∈ items, IsPlain item) : IsPlain (.list items)
  | map {entries : Entries} (hnames : ∀ entry ∈ entries, entry.1.isName = true)
      (hvalues : ∀ entry ∈ entries, IsPlain entry.2) : IsPlain (.map entries)

end Value

namespace Script

/-! Keys. -/

theorem colon_notMem_of_isPlainName {name : List Char} (hplain : isPlainName name = true) :
    ':' ∉ name := by
  intro hmem
  rcases isNamePart_of_isPlainName hplain ':' hmem with hpart | hline
  · exact absurd hpart (by decide)
  · exact absurd hline (by decide)

theorem encode_ne_plain {first second rest last : List Char} (hplain : isPlainName first = true) :
    first ++ rest ≠ encode second ++ last := by
  obtain ⟨c, more, rfl, hstart⟩ := exists_cons_of_isPlainName hplain
  intro heq
  obtain ⟨rfl, -⟩ := List.cons.inj heq
  exact absurd hstart (by decide)

/-- A key ends at its colon. -/
theorem keyText_append_inj {first second rest last : List Char}
    (heq : keyText first ++ ':' :: rest = keyText second ++ ':' :: last) :
    first = second ∧ rest = last := by
  unfold keyText at heq
  split at heq
  · next hfirst =>
      split at heq
      · next hsecond =>
          have hcut : ∀ {name : List Char}, isPlainName name = true → ∀ after,
              (name ++ ':' :: after).takeWhile (· != ':') = name := by
            intro name hplain after
            rw [List.takeWhile_append_of_pos]
            · simp
            · intro c hmem
              simpa using ne_of_mem_of_not_mem hmem (colon_notMem_of_isPlainName hplain)
          have hname := congrArg (List.takeWhile (· != ':')) heq
          rw [hcut hfirst, hcut hsecond] at hname
          subst hname
          exact ⟨rfl, (List.cons.inj (List.append_cancel_left heq)).2⟩
      · exact absurd heq (encode_ne_plain hfirst)
  · split at heq
    · next hsecond => exact absurd heq.symm (encode_ne_plain hsecond)
    · obtain ⟨hname, hrest⟩ := encode_append_inj heq
      exact ⟨hname, (List.cons.inj hrest).2⟩

/-! Items between commas. -/

/-- Two things have one text only when they are the same, whatever follows that does not go on with a
digit. -/
def Apart {α : Type} (spell : α → List Char) (first second : α) : Prop :=
  ∀ rest last, EndsDigits rest → EndsDigits last →
    spell first ++ rest = spell second ++ last → first = second ∧ rest = last

/-- What stands behind the first item. -/
def furtherText (texts : List (List Char)) : List Char :=
  texts.flatMap fun text => ',' :: ' ' :: text

def separatedText : List (List Char) → List Char
  | [] => []
  | text :: texts => text ++ furtherText texts

theorem toList_intercalate_comma (texts : List String) :
    (", ".intercalate texts).toList = separatedText (texts.map String.toList) := by
  induction texts with
  | nil => simp [separatedText]
  | cons text texts ih =>
      cases texts with
      | nil => simp [separatedText, furtherText]
      | cons next texts =>
          rw [String.intercalate_cons_cons, String.toList_append, String.toList_append, ih]
          simp [separatedText, furtherText]

variable {α : Type} {spell : α → List Char} {mark : Char}

theorem endsDigits_further (texts : List (List Char)) (hmark : mark.isDigit = false)
    (rest : List Char) : EndsDigits (furtherText texts ++ mark :: rest) := by
  cases texts with
  | nil =>
      rintro _ ⟨⟩
      exact hmark
  | cons text texts =>
      rintro _ ⟨⟩
      rfl

theorem further_append_inj {firsts seconds : List α}
    (hapart : ∀ first ∈ firsts, ∀ second ∈ seconds, Apart spell first second)
    (hcomma : mark ≠ ',') (hmark : mark.isDigit = false) {rest last : List Char}
    (heq : furtherText (firsts.map spell) ++ mark :: rest =
      furtherText (seconds.map spell) ++ mark :: last) : firsts = seconds ∧ rest = last := by
  induction firsts generalizing seconds with
  | nil =>
      cases seconds with
      | nil => exact ⟨rfl, (List.cons.inj heq).2⟩
      | cons second seconds => exact absurd (List.cons.inj heq).1 hcomma
  | cons first firsts ih =>
      cases seconds with
      | nil => exact absurd (List.cons.inj heq).1.symm hcomma
      | cons second seconds =>
          simp only [furtherText, List.map_cons, List.flatMap_cons, List.cons_append,
            List.append_assoc, List.cons.injEq, true_and] at heq
          obtain ⟨rfl, hmore⟩ := hapart first List.mem_cons_self second List.mem_cons_self _ _
            (endsDigits_further _ hmark rest) (endsDigits_further _ hmark last) heq
          obtain ⟨rfl, hrest⟩ := ih (fun one hone other hother =>
            hapart one (List.mem_cons_of_mem _ hone) other (List.mem_cons_of_mem _ hother)) hmore
          exact ⟨rfl, hrest⟩

/-- Items end at a mark that is no comma and starts none of them. -/
theorem separated_append_inj {firsts seconds : List α}
    (hapart : ∀ first ∈ firsts, ∀ second ∈ seconds, Apart spell first second)
    (hopens : ∀ item ∈ firsts ++ seconds, ∃ c more, spell item = c :: more ∧ c ≠ mark)
    (hcomma : mark ≠ ',') (hmark : mark.isDigit = false) {rest last : List Char}
    (heq : separatedText (firsts.map spell) ++ mark :: rest =
      separatedText (seconds.map spell) ++ mark :: last) : firsts = seconds ∧ rest = last := by
  have hopen {item : α} (hmem : item ∈ firsts ++ seconds) (more after : List Char) :
      mark :: after ≠ spell item ++ more := by
    obtain ⟨c, others, hspell, hne⟩ := hopens item hmem
    rw [hspell]
    exact fun heq => hne (List.cons.inj heq).1.symm
  cases firsts with
  | nil =>
      cases seconds with
      | nil => exact ⟨rfl, (List.cons.inj heq).2⟩
      | cons second seconds =>
          rw [List.map_cons, separatedText, List.append_assoc] at heq
          exact absurd heq (hopen (by simp) _ _)
  | cons first firsts =>
      cases seconds with
      | nil =>
          rw [List.map_cons, separatedText, List.append_assoc] at heq
          exact absurd heq.symm (hopen (by simp) _ _)
      | cons second seconds =>
          rw [List.map_cons, List.map_cons, separatedText, separatedText, List.append_assoc,
            List.append_assoc] at heq
          obtain ⟨rfl, hmore⟩ := hapart first List.mem_cons_self second List.mem_cons_self _ _
            (endsDigits_further _ hmark rest) (endsDigits_further _ hmark last) heq
          obtain ⟨rfl, hrest⟩ := further_append_inj (fun one hone other hother =>
            hapart one (List.mem_cons_of_mem _ hone) other (List.mem_cons_of_mem _ hother))
            hcomma hmark hmore
          exact ⟨rfl, hrest⟩

/-! Literals. -/

/-- The literal of a value, as characters. -/
def literalText (value : Value) : List Char :=
  (literal value).toList

/-- An entry of a map, as characters. -/
def entryText (entry : Key × Value) : List Char :=
  keyText entry.1.text.toList ++ ':' :: ' ' :: literalText entry.2

theorem literalText_text {value : String} (hmarker : Placeholder.ofMarker? value = none) :
    literalText (.text value) = encode value.toList := by
  simp [literalText, literal, textLiteral, hmarker]

theorem literalText_int (n : Int) : literalText (.int n) = integerChars n :=
  toList_toString_int n

theorem literalText_list (items : List Value) :
    literalText (.list items) = '[' :: (separatedText (items.map literalText) ++ [']']) := by
  rw [literalText, literal, bracketed, String.toList_append, String.toList_append,
    toList_intercalate_comma, literals_eq_map, List.map_map]
  rfl

theorem literalText_map (entry : Key × Value) (entries : Entries) :
    literalText (.map (entry :: entries)) =
      '\x7b' :: ' ' :: (separatedText ((entry :: entries).map entryText) ++ [' ', '\x7d']) := by
  have hentries : (entryLiterals (entry :: entries)).map String.toList =
      (entry :: entries).map entryText := by
    rw [entryLiterals_eq_map, List.map_map]
    refine List.map_congr_left fun entry _ => ?_
    simp [entryText, literalText, toList_key]
  have hnone : (entryLiterals (entry :: entries)).isEmpty = false := by
    rw [entryLiterals_eq_map]
    rfl
  rw [literalText, literal, braced, hnone, if_neg Bool.false_ne_true, String.toList_append,
    String.toList_append, toList_intercalate_comma, hentries]
  rfl

/-- The kind of a value that has a literal of its own. -/
inductive Form where
  | null
  | truth
  | number
  | text
  | list
  | map
  | other
  deriving DecidableEq

def formOf : Value → Form
  | .null => .null
  | .bool _ => .truth
  | .int _ => .number
  | .text _ => .text
  | .list _ => .list
  | .map _ => .map
  | _ => .other

/-- What the first character of a literal tells of the value. -/
def openedForm (c : Char) : Form :=
  if c = 'n' then .null
  else if c = 't' || c = 'f' then .truth
  else if c = '\'' then .text
  else if c = '[' then .list
  else if c = '\x7b' then .map
  else if c = '-' || c.isDigit then .number
  else .other

theorem openedForm_of_isDigit {c : Char} (hdigit : c.isDigit = true) : openedForm c = .number := by
  have hmarks : (['n', 't', 'f', '\'', '[', '\x7b'].all fun mark => !mark.isDigit) = true := rfl
  have hne : ∀ mark ∈ ['n', 't', 'f', '\'', '[', '\x7b'], c ≠ mark := by
    rintro mark hmem rfl
    have hmark := List.all_eq_true.mp hmarks c hmem
    rw [hdigit] at hmark
    cases hmark
  simp only [List.forall_mem_cons] at hne
  simp [openedForm, hne, hdigit]

theorem exists_openedForm {value : Value} (hplain : value.IsPlain) :
    ∃ c rest, literalText value = c :: rest ∧ openedForm c = formOf value := by
  cases hplain with
  | null => exact ⟨'n', _, rfl, rfl⟩
  | bool value =>
      cases value
      · exact ⟨'f', _, rfl, rfl⟩
      · exact ⟨'t', _, rfl, rfl⟩
  | int n =>
      rw [literalText_int, integerChars, signedChars]
      split
      · exact ⟨'-', _, rfl, rfl⟩
      · obtain ⟨c, rest, heq, hdigit⟩ := digitFirst_digitChars n.natAbs
        exact ⟨c, rest, heq, openedForm_of_isDigit hdigit⟩
  | text hmarker => exact ⟨'\'', _, literalText_text hmarker, rfl⟩
  | list hitems => exact ⟨'[', _, literalText_list _, rfl⟩
  | @map entries _ _ =>
      cases entries with
      | nil => exact ⟨'\x7b', _, rfl, rfl⟩
      | cons entry entries => exact ⟨'\x7b', _, literalText_map entry entries, rfl⟩

theorem formOf_eq {first second : Value} (hfirst : first.IsPlain) (hsecond : second.IsPlain)
    {rest last : List Char} (heq : literalText first ++ rest = literalText second ++ last) :
    formOf first = formOf second := by
  obtain ⟨c, more, hc, hform⟩ := exists_openedForm hfirst
  obtain ⟨d, others, hd, hother⟩ := exists_openedForm hsecond
  rw [hc, hd] at heq
  rw [← hform, ← hother, (List.cons.inj heq).1]

theorem formOf_ne_other {value : Value} (hplain : value.IsPlain) : formOf value ≠ .other := by
  cases hplain <;> exact Form.noConfusion

/-- No literal of plain data starts with a closing bracket. -/
theorem opens_literalText {value : Value} (hplain : value.IsPlain) :
    ∃ c more, literalText value = c :: more ∧ c ≠ ']' := by
  obtain ⟨c, more, heq, hform⟩ := exists_openedForm hplain
  refine ⟨c, more, heq, ?_⟩
  rintro rfl
  exact formOf_ne_other hplain hform.symm

theorem opens_entryText (entry : Key × Value) :
    ∃ c more, entryText entry = c :: more ∧ c ≠ ' ' := by
  unfold entryText keyText
  split
  · next hplain =>
      obtain ⟨c, rest, heq, hstart⟩ := exists_cons_of_isPlainName hplain
      refine ⟨c, _, by rw [heq]; rfl, ?_⟩
      rintro rfl
      cases hstart
  · exact ⟨'\'', _, rfl, by decide⟩

theorem apart_entryText {first second : Key × Value} (hfirst : first.1.isName = true)
    (hsecond : second.1.isName = true) (hapart : Apart literalText first.2 second.2) :
    Apart entryText first second := by
  obtain ⟨firstKey, firstValue⟩ := first
  obtain ⟨secondKey, secondValue⟩ := second
  intro rest last hrest hlast heq
  unfold entryText at heq
  rw [List.append_assoc, List.append_assoc, List.cons_append, List.cons_append] at heq
  obtain ⟨hkey, hvalue⟩ := keyText_append_inj heq
  obtain ⟨rfl, hends⟩ := hapart rest last hrest hlast (List.cons.inj hvalue).2
  cases firstKey with
  | other written => cases hfirst
  | name firstName =>
      cases secondKey with
      | other written => cases hsecond
      | name secondName =>
          obtain rfl : firstName = secondName := String.toList_injective hkey
          exact ⟨rfl, hends⟩

/-! Two literals of one kind. -/

theorem apart_bool (first second : Bool) :
    Apart literalText (.bool first) (.bool second) := by
  intro rest last _ _ heq
  cases first <;> cases second
  · exact ⟨rfl, List.append_cancel_left heq⟩
  · exact absurd (List.cons.inj heq).1 (by decide)
  · exact absurd (List.cons.inj heq).1 (by decide)
  · exact ⟨rfl, List.append_cancel_left heq⟩

theorem apart_int (first second : Int) : Apart literalText (.int first) (.int second) := by
  intro rest last hrest hlast heq
  rw [literalText_int, literalText_int] at heq
  obtain ⟨rfl, hends⟩ := integerChars_append_inj hrest hlast heq
  exact ⟨rfl, hends⟩

theorem apart_text {first second : String} (hfirst : Placeholder.ofMarker? first = none)
    (hsecond : Placeholder.ofMarker? second = none) :
    Apart literalText (.text first) (.text second) := by
  intro rest last _ _ heq
  rw [literalText_text hfirst, literalText_text hsecond] at heq
  obtain ⟨hchars, hends⟩ := encode_append_inj heq
  exact ⟨congrArg Value.text (String.toList_injective hchars), hends⟩

theorem apart_list {first second : List Value} (hfirst : ∀ item ∈ first, item.IsPlain)
    (hsecond : ∀ item ∈ second, item.IsPlain)
    (hapart : ∀ item ∈ first, ∀ other ∈ second, Apart literalText item other) :
    Apart literalText (.list first) (.list second) := by
  intro rest last _ _ heq
  rw [literalText_list, literalText_list] at heq
  simp only [List.cons_append, List.append_assoc, List.nil_append, List.cons.injEq,
    true_and] at heq
  have hopens : ∀ item ∈ first ++ second, ∃ c more, literalText item = c :: more ∧ c ≠ ']' :=
    List.forall_mem_append.mpr ⟨fun item hmem => opens_literalText (hfirst item hmem),
      fun item hmem => opens_literalText (hsecond item hmem)⟩
  obtain ⟨rfl, hends⟩ := separated_append_inj hapart hopens (by decide) (by decide) heq
  exact ⟨rfl, hends⟩

theorem apart_map {first second : Entries} (hfirst : ∀ entry ∈ first, entry.1.isName = true)
    (hsecond : ∀ entry ∈ second, entry.1.isName = true)
    (hapart : ∀ entry ∈ first, ∀ other ∈ second, Apart literalText entry.2 other.2) :
    Apart literalText (.map first) (.map second) := by
  intro rest last _ _ heq
  cases first with
  | nil =>
      cases second with
      | nil => exact ⟨rfl, List.append_cancel_left heq⟩
      | cons other others =>
          rw [literalText_map] at heq
          exact absurd (List.cons.inj (List.cons.inj heq).2).1 (by decide)
  | cons entry entries =>
      cases second with
      | nil =>
          rw [literalText_map] at heq
          exact absurd (List.cons.inj (List.cons.inj heq).2).1 (by decide)
      | cons other others =>
          rw [literalText_map, literalText_map] at heq
          simp only [List.cons_append, List.append_assoc, List.nil_append, List.cons.injEq,
            true_and] at heq
          obtain ⟨hentries, hends⟩ := separated_append_inj
            (fun one hone next hnext =>
              apart_entryText (hfirst one hone) (hsecond next hnext) (hapart one hone next hnext))
            (fun item _ => opens_entryText item) (by decide) (by decide) heq
          exact ⟨congrArg Value.map hentries, (List.cons.inj hends).2⟩

theorem apart_of_formOf_ne {first second : Value} (hfirst : first.IsPlain)
    (hsecond : second.IsPlain) (hne : formOf first ≠ formOf second) :
    Apart literalText first second :=
  fun _ _ _ _ heq => absurd (formOf_eq hfirst hsecond heq) hne

theorem apart_literalText {first second : Value} (hfirst : first.IsPlain)
    (hsecond : second.IsPlain) : Apart literalText first second := by
  have hother := apart_of_formOf_ne hfirst hsecond
  induction hfirst generalizing second with
  | null =>
      cases hsecond with
      | null => exact fun _ _ _ _ heq => ⟨rfl, List.append_cancel_left heq⟩
      | _ => exact hother Form.noConfusion
  | bool value =>
      cases hsecond with
      | bool partner => exact apart_bool value partner
      | _ => exact hother Form.noConfusion
  | int value =>
      cases hsecond with
      | int partner => exact apart_int value partner
      | _ => exact hother Form.noConfusion
  | text hmarker =>
      cases hsecond with
      | text hpartner => exact apart_text hmarker hpartner
      | _ => exact hother Form.noConfusion
  | list hitems ih =>
      cases hsecond with
      | list hpartners =>
          exact apart_list hitems hpartners fun item hitem partner hpartner =>
            ih item hitem (hpartners partner hpartner)
              (apart_of_formOf_ne (hitems item hitem) (hpartners partner hpartner))
      | _ => exact hother Form.noConfusion
  | map hnames hvalues ih =>
      cases hsecond with
      | map hothers hpartners =>
          exact apart_map hnames hothers fun entry hentry partner hpartner =>
            ih entry hentry (hpartners partner hpartner)
              (apart_of_formOf_ne (hvalues entry hentry) (hpartners partner hpartner))
      | _ => exact hother Form.noConfusion

/-- Plain data have one literal only when they are the same, with the same entries in the same order. -/
theorem literal_eq_iff_of_isPlain {first second : Value} (hfirst : first.IsPlain)
    (hsecond : second.IsPlain) : literal first = literal second ↔ first = second := by
  constructor
  · intro heq
    have hnothing : EndsDigits [] := fun _ hhead => absurd hhead (by simp)
    have hchars : literalText first ++ [] = literalText second ++ [] := by
      rw [literalText, heq, literalText]
    exact (apart_literalText hfirst hsecond [] [] hnothing hnothing hchars).1
  · rintro rfl
    rfl

def guestList (guests : List Value) : Value :=
  .map [(.name "id", .int 7), (.name "the guests", .list guests)]

/-- One guest whose name looks like two names in their quotes. -/
def oneGuest : Value := guestList [.text "Ann', 'Bob"]

def twoGuests : Value := guestList [.text "Ann", .text "Bob"]

theorem guestList_isPlain {guests : List Value} (hguests : ∀ guest ∈ guests, guest.IsPlain) :
    (guestList guests).IsPlain := by
  refine .map ?_ ?_
  · simp [Key.isName]
  · simp only [List.forall_mem_cons, List.not_mem_nil, false_implies, implies_true, and_true]
    exact ⟨.int 7, .list hguests⟩

theorem literal_oneGuest_ne :
    oneGuest.IsPlain ∧ twoGuests.IsPlain ∧ literal oneGuest ≠ literal twoGuests := by
  have hone : oneGuest.IsPlain := guestList_isPlain (by
    rintro guest (_ | ⟨_, ⟨⟩⟩)
    exact .text (by decide))
  have htwo : twoGuests.IsPlain := guestList_isPlain (by
    rintro guest (_ | ⟨_, _ | ⟨_, ⟨⟩⟩⟩)
    · exact .text (by decide)
    · exact .text (by decide))
  have hne : oneGuest ≠ twoGuests := by simp [oneGuest, twoGuests, guestList]
  exact ⟨hone, htwo, fun heq => hne ((literal_eq_iff_of_isPlain hone htwo).mp heq)⟩

end Script

end ScreenFlow
