import ScreenFlow.Number.Binary64

/-!
The fewest decimal digits that read back as a given binary number.  On the grid of multiples of
`10 ^ place` only the two neighbours of the number can lie among the reals that round to it, so the
first place, from coarse to fine, with such a neighbour gives the fewest digits.
-/

namespace ScreenFlow.Shortest

/-- The reals that round to a number, as quarters of its last binary place: from `low` to `high`
around `middle`, the ends included when `closed`. -/
structure Interval where
  low : Nat
  middle : Nat
  high : Nat
  closed : Bool
  /-- The quarters are multiples of `2 ^ quarter`. -/
  quarter : Int

def interval (mantissa : Nat) (exponent : Int) : Interval where
  low :=
    if mantissa = twoTo 52 ∧ Binary64.leastExponent < exponent then 4 * mantissa - 1
    else 4 * mantissa - 2
  middle := 4 * mantissa
  high := 4 * mantissa + 2
  closed := mantissa % 2 == 0
  quarter := exponent - 2

/-- Multiples of `10 ^ place` and of `2 ^ quarter` on one scale. -/
def scales (quarter place : Int) : Nat × Nat :=
  let decimal := if 0 ≤ place then (tenTo place.toNat, 1) else (1, tenTo (-place).toNat)
  let binary := if 0 ≤ quarter then (twoTo quarter.toNat, 1) else (1, twoTo (-quarter).toNat)
  (decimal.1 * binary.2, binary.1 * decimal.2)

def Interval.covers (i : Interval) (decimalScale binaryScale k : Nat) : Bool :=
  let point := k * decimalScale
  let low := i.low * binaryScale
  let high := i.high * binaryScale
  if i.closed then low ≤ point && point ≤ high else low < point && point < high

/-- The neighbour on the grid that lies in the interval, the nearer of two, the even one of two at
the same distance. -/
def neighbour? (i : Interval) (place : Int) : Option Nat :=
  let (decimalScale, binaryScale) := scales i.quarter place
  let middle := i.middle * binaryScale
  let below := middle / decimalScale
  let above := below + 1
  match i.covers decimalScale binaryScale below, i.covers decimalScale binaryScale above with
  | true, false => some below
  | false, true => some above
  | true, true =>
      let toBelow := middle - below * decimalScale
      let toAbove := above * decimalScale - middle
      if toBelow < toAbove || (toBelow == toAbove && below % 2 == 0) then some below
      else some above
  | false, false => none

/-- Tries the given place and the finer ones below it. -/
def search (i : Interval) (place : Int) : Nat → Nat × Int
  | 0 => ((neighbour? i place).getD 0, place)
  | fuel + 1 =>
      match neighbour? i place with
      | some k => (k, place)
      | none => search i (place - 1) fuel

/-- The number of digits before the decimal point; zero or less for a number below one. -/
def pointPlace (mantissa : Nat) (exponent : Int) : Int :=
  let binaryPlace : Int := mantissa.log2 + exponent
  let guess := (binaryPlace * 1233).fdiv 4096 + 1
  let atLeast (place : Int) : Bool :=
    let (decimalScale, binaryScale) := scales exponent place
    decimalScale ≤ mantissa * binaryScale
  if atLeast guess then guess + 1 else if atLeast (guess - 1) then guess else guess - 1

/-- Drops the zeros at the end of a digit sequence. -/
def dropZeros (k : Nat) (place : Int) : Nat → Nat × Int
  | 0 => (k, place)
  | fuel + 1 => if k % 10 = 0 then dropZeros (k / 10) (place + 1) fuel else (k, place)

/-- Digits and decimal place of the shortest decimal that reads back as the number, which is not
zero. -/
def decimal (mantissa : Nat) (exponent : Int) : Nat × Int :=
  let (k, place) := search (interval mantissa exponent) (pointPlace mantissa exponent - 1) 17
  dropZeros k place 20

end ScreenFlow.Shortest

namespace ScreenFlow.Binary64

def exponentText (exponent : Int) : String :=
  let digits := toString exponent.natAbs
  (if exponent < 0 then "e-" else "e+") ++ (if digits.length < 2 then "0" ++ digits else digits)

def zeros (n : Nat) : String :=
  String.ofList (List.replicate n '0')

/-- Positional from `10 ^ -4` to below `10 ^ 16`, with a fraction even when it is zero; otherwise
one digit before the point and an exponent of at least two digits. -/
def layout (digits : Nat) (place : Int) : String :=
  let text := (toString digits).toList
  let length : Int := text.length
  let point := length + place
  if -4 < point && point ≤ 16 then
    if point ≤ 0 then "0." ++ zeros (-point).toNat ++ String.ofList text
    else if length ≤ point then String.ofList text ++ zeros (point - length).toNat ++ ".0"
    else String.ofList (text.take point.toNat) ++ "." ++ String.ofList (text.drop point.toNat)
  else
    let fraction := text.drop 1
    String.ofList (text.take 1) ++
      (if fraction.isEmpty then "" else "." ++ String.ofList fraction) ++
      exponentText (point - 1)

/-- The text of a number in labels, literals and data. -/
def text : Binary64 → String
  | .nan => "nan"
  | .infinite negative => if negative then "-inf" else "inf"
  | .finite negative mantissa exponent =>
      let (digits, place) :=
        if mantissa = 0 then (0, 0) else Shortest.decimal mantissa exponent
      (if negative then "-" else "") ++ layout digits place

end ScreenFlow.Binary64
