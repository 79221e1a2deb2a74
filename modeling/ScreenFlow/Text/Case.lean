import ScreenFlow.Text.Class
import ScreenFlow.Text.CaseTables

/-!
Capital and small forms of texts.  A character may have a capital form of several characters; the
small form of a capital sigma depends on its neighbours.  On ASCII both maps are the ones of the
core library (`upper_ascii`, `lower_ascii`).
-/

namespace ScreenFlow.Text

def shifted (rows : List (Nat × Nat × Nat × Int)) (c : Char) : Char :=
  let n := c.toNat
  match rows.find? fun (first, last, stride, _) =>
      first ≤ n && n ≤ last && (n - first) % stride == 0 with
  | some (_, _, _, shift) => Char.ofNat (n + shift).toNat
  | none => c

/-- The capital form of one character. -/
def upperChar (c : Char) : List Char :=
  if c.toNat < 128 then [c.toUpper]
  else
    match upperSequences.find? (·.1 == c.toNat) with
    | some (_, form) => form.map Char.ofNat
    | none => [shifted upperRows c]

def upper (text : List Char) : List Char :=
  text.flatMap upperChar

/-- The small form of one character that stands alone. -/
def lowerChar (c : Char) : List Char :=
  if c.toNat < 128 then [c.toLower]
  else if c.toNat = 0x130 then ['i', Char.ofNat 0x307]
  else [shifted lowerRows c]

def isCased (c : Char) : Bool :=
  inClass casedSwitches c

def isCaseIgnorable (c : Char) : Bool :=
  inClass caseIgnorableSwitches c

/-- The next character whose case counts has case. -/
def nextIsCased (text : List Char) : Bool :=
  match text.dropWhile isCaseIgnorable with
  | [] => false
  | c :: _ => isCased c

/-- `before` holds the characters already read, the nearest first. -/
def lowerFrom (before : List Char) : List Char → List Char
  | [] => []
  | c :: rest =>
      let form :=
        if c.toNat = 0x3A3 then
          if nextIsCased before && !nextIsCased rest then [Char.ofNat 0x3C2]
          else [Char.ofNat 0x3C3]
        else lowerChar c
      form ++ lowerFrom (c :: before) rest

def lower (text : List Char) : List Char :=
  lowerFrom [] text

/-- The first character in its capital form, the rest unchanged. -/
def upperFirst : List Char → List Char
  | [] => []
  | c :: rest => upperChar c ++ rest

def lowerFirst : List Char → List Char
  | [] => []
  | c :: rest => lower [c] ++ rest

theorem upper_ascii {text : List Char} (hascii : ∀ c ∈ text, c.toNat < 128) :
    upper text = text.map Char.toUpper := by
  induction text with
  | nil => rfl
  | cons c rest ih =>
      have hc := hascii c (by simp)
      have hrest := ih fun d hd => hascii d (by simp [hd])
      have hone : upperChar c = [c.toUpper] := by simp [upperChar, hc]
      simp only [upper, List.flatMap_cons, List.map_cons, hone] at hrest ⊢
      rw [hrest]
      rfl

theorem lowerFrom_ascii (before : List Char) {text : List Char}
    (hascii : ∀ c ∈ text, c.toNat < 128) :
    lowerFrom before text = text.map Char.toLower := by
  induction text generalizing before with
  | nil => rfl
  | cons c rest ih =>
      have hc := hascii c (by simp)
      have hrest := ih (c :: before) fun d hd => hascii d (by simp [hd])
      have hsigma : c.toNat ≠ 0x3A3 := by omega
      have hone : lowerChar c = [c.toLower] := by simp [lowerChar, hc]
      simp only [lowerFrom, hsigma, if_false, hone, hrest, List.map_cons, List.cons_append,
        List.nil_append]

theorem lower_ascii {text : List Char} (hascii : ∀ c ∈ text, c.toNat < 128) :
    lower text = text.map Char.toLower :=
  lowerFrom_ascii [] hascii

end ScreenFlow.Text

namespace ScreenFlow

def upperText (text : String) : String :=
  String.ofList (Text.upper text.toList)

def lowerText (text : String) : String :=
  String.ofList (Text.lower text.toList)

/-- The text with a capital first character. -/
def capitalized (text : String) : String :=
  String.ofList (Text.upperFirst text.toList)

def uncapitalized (text : String) : String :=
  String.ofList (Text.lowerFirst text.toList)

end ScreenFlow
