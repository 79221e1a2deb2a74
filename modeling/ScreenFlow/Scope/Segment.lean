import ScreenFlow.Text.Blank

/-!
Texts with references.  A reference is a name between double braces; the braces hold no brace
themselves, and blanks around the name do not count.  `scan` cuts a text into the references it
holds and the plain pieces between them.
-/

namespace ScreenFlow

inductive Segment where
  | plain (text : List Char)
  | reference (name : List Char)
  deriving DecidableEq, Repr

namespace Segment

def isBrace (c : Char) : Bool :=
  c = '\x7b' || c = '\x7d'

/-- The characters up to the next brace. -/
def inner (text : List Char) : List Char :=
  text.takeWhile fun c => !isBrace c

/-- What counts of the text between the braces.  Of blanks alone the last one is kept. -/
def nameOf (between : List Char) : List Char :=
  match Text.trimLeft between with
  | [] => between.drop (between.length - 1)
  | name => Text.trimRight name

/-- The reference at the very start of a text, and what follows it. -/
def reference? : List Char → Option (List Char × List Char)
  | '\x7b' :: '\x7b' :: rest =>
      match rest.dropWhile fun c => !isBrace c with
      | '\x7d' :: '\x7d' :: after =>
          if (inner rest).isEmpty then none else some (nameOf (inner rest), after)
      | _ => none
  | _ => none

theorem reference?_length {text name after : List Char}
    (hfound : reference? text = some (name, after)) : after.length < text.length := by
  unfold reference? at hfound
  split at hfound
  · next rest =>
      split at hfound
      · next close hclose =>
          split at hfound
          · simp at hfound
          · simp only [Option.some.injEq, Prod.mk.injEq] at hfound
            have hle := (List.dropWhile_sublist (fun c => !isBrace c) (l := rest)).length_le
            rw [hclose] at hle
            simp only [List.length_cons] at hle ⊢
            rw [← hfound.2]
            omega
      · simp at hfound
  · simp at hfound

/-- A plain piece in front of what has been scanned; neighbouring plain pieces are one. -/
def consPlain (c : Char) : List Segment → List Segment
  | .plain text :: rest => .plain (c :: text) :: rest
  | segments => .plain [c] :: segments

def scan : List Char → List Segment
  | [] => []
  | c :: rest =>
      match hfound : reference? (c :: rest) with
      | some (name, after) =>
          have : after.length < rest.length + 1 := reference?_length hfound
          .reference name :: scan after
      | none => consPlain c (scan rest)
termination_by text => text.length

/-- The name, if the whole text is one reference. -/
def whole? (text : List Char) : Option (List Char) :=
  match reference? text with
  | some (name, []) => some name
  | _ => none

def isReference : Segment → Bool
  | .plain _ => false
  | .reference _ => true

end Segment

end ScreenFlow
