import ScreenFlow.Json.Reader

/-!
String literals of unit texts: what stands between the quotes, and the text it spells.  A raw
literal spells itself; in any other one, a backslash starts an escape, or spells itself when it
starts none.
-/

namespace ScreenFlow.UnitText

/-- A string literal as it was found: the letters in front of the quotes decide how its body is
read. -/
structure Quoted where
  isRaw : Bool := false
  isBytes : Bool := false
  isTemplate : Bool := false
  body : List Char
  deriving Repr, Inhabited, DecidableEq

namespace Quoted

def octalValue? (c : Char) : Option Nat :=
  if '0' ≤ c && c ≤ '7' then some (c.toNat - '0'.toNat) else none

/-- Up to `count` octal digits at the start of a text, and what follows them. -/
def octal (count value : Nat) : List Char → Nat × List Char
  | [] => (value, [])
  | c :: rest =>
      match count, octalValue? c with
      | count + 1, some digit => octal count (value * 8 + digit) rest
      | _, _ => (value, c :: rest)

/-- The number that exactly `count` hexadecimal digits at the start of a text spell. -/
def hex? (count : Nat) (text : List Char) : Option (Nat × List Char) :=
  if (text.take count).length = count then
    (Json.hexNumber? (text.take count)).map (·, text.drop count)
  else none

/-- A character by its number; half of a pair cannot stand alone. -/
def charOf? (n : Nat) : Option Char :=
  if 0x10FFFF < n then none
  else if 0xD800 ≤ n && n < 0xE000 then some Json.loneUnit
  else some (Char.ofNat n)

def hexEscape? (count : Nat) (text : List Char) : Option (List Char × List Char) := do
  let (n, rest) ← hex? count text
  return ([← charOf? n], rest)

def plainEscape? : Char → Option (List Char)
  | '\n' => some []
  | '\\' => some ['\\']
  | '\'' => some ['\'']
  | '"' => some ['"']
  | 'a' => some [Char.ofNat 7]
  | 'b' => some [Char.ofNat 8]
  | 'f' => some [Char.ofNat 12]
  | 'n' => some ['\n']
  | 'r' => some ['\r']
  | 't' => some ['\t']
  | 'v' => some [Char.ofNat 11]
  | _ => none

/-- What the escape whose backslash has been read spells, and what follows it.  No value when it is
malformed. -/
def escape? (isBytes : Bool) : List Char → Option (List Char × List Char)
  | [] => some (['\\'], [])
  | c :: rest =>
      match plainEscape? c with
      | some spelled => some (spelled, rest)
      | none =>
          if (octalValue? c).isSome then
            let (n, after) := octal 3 0 (c :: rest)
            some ([Char.ofNat n], after)
          else if c = 'x' then hexEscape? 2 rest
          else if isBytes then some (['\\', c], rest)
          else if c = 'u' then hexEscape? 4 rest
          else if c = 'U' then hexEscape? 8 rest
          else if c = 'N' then none
          else some (['\\', c], rest)

def decode? (isBytes : Bool) : Nat → List Char → Option (List Char)
  | _, [] => some []
  | 0, _ => none
  | fuel + 1, c :: rest =>
      if c = '\\' then
        match escape? isBytes rest with
        | some (spelled, after) => (decode? isBytes fuel after).map (spelled ++ ·)
        | none => none
      else (decode? isBytes fuel rest).map (c :: ·)

/-- The text that a stretch of the literal's body spells. -/
def spelled? (literal : Quoted) (body : List Char) : Option String :=
  if literal.isRaw then some (String.ofList body)
  else (decode? literal.isBytes (body.length + 1) body).map String.ofList

/-- The text that the whole literal spells; bytes are ASCII characters or escapes. -/
def text? (literal : Quoted) : Option String :=
  if literal.isBytes && literal.body.any fun c => 127 < c.toNat then none
  else literal.spelled? literal.body

end Quoted

end ScreenFlow.UnitText
