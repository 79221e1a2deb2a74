/-!
Binary floating-point numbers with a 53-bit significand, held exactly.  A finite number is
`mantissa * 2 ^ exponent`, where the exponent is at least -1074 and the mantissa is below `2 ^ 53`;
rounding goes to the nearest such number and a tie to the even mantissa.
-/

namespace ScreenFlow

def twoTo (n : Nat) : Nat := Nat.pow 2 n

def tenTo (n : Nat) : Nat := Nat.pow 10 n

theorem twoTo_succ (n : Nat) : twoTo (n + 1) = twoTo n * 2 := rfl

theorem tenTo_succ (n : Nat) : tenTo (n + 1) = tenTo n * 10 := rfl

theorem twoTo_pos (n : Nat) : 0 < twoTo n := by
  induction n with
  | zero => exact Nat.one_pos
  | succ n ih =>
      rw [twoTo_succ]
      exact Nat.mul_pos ih (by decide)

theorem tenTo_pos (n : Nat) : 0 < tenTo n := by
  induction n with
  | zero => exact Nat.one_pos
  | succ n ih =>
      rw [tenTo_succ]
      exact Nat.mul_pos ih (by decide)

inductive Binary64 where
  | finite (negative : Bool) (mantissa : Nat) (exponent : Int)
  | infinite (negative : Bool)
  | nan
  deriving DecidableEq, Repr, Inhabited

namespace Binary64

def leastExponent : Int := -1074

def greatestExponent : Int := 971

/-- Numerator and denominator of `numerator / denominator / 2 ^ exponent`. -/
def scaled (numerator denominator : Nat) (exponent : Int) : Nat × Nat :=
  if 0 ≤ exponent then (numerator, denominator * twoTo exponent.toNat)
  else (numerator * twoTo (-exponent).toNat, denominator)

/-- The nearest natural number to a quotient; a tie goes to the even one. -/
def roundHalfEven (numerator denominator : Nat) : Nat :=
  let quotient := numerator / denominator
  let twice := 2 * (numerator % denominator)
  if twice < denominator || (twice == denominator && quotient % 2 == 0) then quotient
  else quotient + 1

def zero (negative : Bool) : Binary64 :=
  .finite negative 0 leastExponent

/-- The number nearest to a quotient of natural numbers. -/
def ofRatio (negative : Bool) (numerator denominator : Nat) : Binary64 :=
  if numerator = 0 then zero negative
  else
    let guess : Int := (numerator.log2 : Int) - denominator.log2 - 52
    let (top, bottom) := scaled numerator denominator guess
    let unclamped := if top / bottom < twoTo 52 then guess - 1 else guess
    let exponent := max unclamped leastExponent
    let (top, bottom) := scaled numerator denominator exponent
    let mantissa := roundHalfEven top bottom
    let (mantissa, exponent) :=
      if mantissa = twoTo 53 then (twoTo 52, exponent + 1) else (mantissa, exponent)
    if greatestExponent < exponent then .infinite negative
    else .finite negative mantissa exponent

/-- The number nearest to `digits * 10 ^ exponent`.  Exponents beyond every finite number are
answered without computing the power. -/
def ofDecimal (negative : Bool) (digits : Nat) (exponent : Int) : Binary64 :=
  if digits = 0 then zero negative
  else if 400 < exponent then .infinite negative
  else if exponent + digits.log2 / 3 + 1 < -400 then zero negative
  else if 0 ≤ exponent then ofRatio negative (digits * tenTo exponent.toNat) 1
  else ofRatio negative digits (tenTo (-exponent).toNat)

def ofInt (n : Int) : Binary64 :=
  ofRatio (n < 0) n.natAbs 1

def neg : Binary64 → Binary64
  | .finite negative mantissa exponent => .finite (!negative) mantissa exponent
  | .infinite negative => .infinite (!negative)
  | .nan => .nan

def isZero : Binary64 → Bool
  | .finite _ mantissa _ => mantissa == 0
  | _ => false

/-- `number * 2 ^ 1074`, which is a whole number for every finite `number`. -/
def units (negative : Bool) (mantissa : Nat) (exponent : Int) : Int :=
  let size := Int.ofNat (mantissa * twoTo (exponent - leastExponent).toNat)
  if negative then -size else size

/-- The order of numbers; a NaN is neither below nor above anything. -/
def lt : Binary64 → Binary64 → Bool
  | .nan, _ => false
  | _, .nan => false
  | .infinite first, .infinite second => first && !second
  | .infinite first, .finite .. => first
  | .finite .., .infinite second => !second
  | .finite n₁ m₁ e₁, .finite n₂ m₂ e₂ => units n₁ m₁ e₁ < units n₂ m₂ e₂

/-- Equality of numbers: the two zeros are equal and a NaN equals nothing. -/
def same : Binary64 → Binary64 → Bool
  | .infinite first, .infinite second => first == second
  | .finite n₁ m₁ e₁, .finite n₂ m₂ e₂ => units n₁ m₁ e₁ == units n₂ m₂ e₂
  | _, _ => false

def sameInt (x : Binary64) (n : Int) : Bool :=
  match x with
  | .finite negative mantissa exponent =>
      units negative mantissa exponent == n * Int.ofNat (twoTo (-leastExponent).toNat)
  | _ => false

/-- The whole part, toward zero. -/
def truncate? : Binary64 → Option Int
  | .finite negative mantissa exponent =>
      let size : Nat :=
        if 0 ≤ exponent then mantissa * twoTo exponent.toNat else mantissa / twoTo (-exponent).toNat
      some (if negative then -(size : Int) else size)
  | _ => none

@[simp] theorem neg_neg (x : Binary64) : x.neg.neg = x := by
  cases x <;> simp [neg]

theorem lt_irrefl (x : Binary64) : x.lt x = false := by
  cases x <;> simp [lt]

/-! Sums, products and quotients.  Each is the number nearest to the exact result; where there is no
exact result, there is no value. -/

/-- The number nearest to `size * 2 ^ exponent`. -/
def ofScaled (size : Int) (exponent : Int) : Binary64 :=
  if 0 ≤ exponent then ofRatio (size < 0) (size.natAbs * twoTo exponent.toNat) 1
  else ofRatio (size < 0) size.natAbs (twoTo (-exponent).toNat)

def signed (negative : Bool) (mantissa : Nat) : Int :=
  if negative then -(mantissa : Int) else mantissa

def add? : Binary64 → Binary64 → Option Binary64
  | .finite n₁ m₁ e₁, .finite n₂ m₂ e₂ =>
      if m₁ = 0 && m₂ = 0 then some (zero (n₁ && n₂))
      else
        let least := min e₁ e₂
        some (ofScaled
          (signed n₁ (m₁ * twoTo (e₁ - least).toNat) + signed n₂ (m₂ * twoTo (e₂ - least).toNat))
          least)
  | _, _ => none

def mul? : Binary64 → Binary64 → Option Binary64
  | .finite n₁ m₁ e₁, .finite n₂ m₂ e₂ =>
      if m₁ = 0 || m₂ = 0 then some (zero (n₁ != n₂))
      else some (ofScaled (signed (n₁ != n₂) (m₁ * m₂)) (e₁ + e₂))
  | _, _ => none

def div? : Binary64 → Binary64 → Option Binary64
  | .finite n₁ m₁ e₁, .finite n₂ m₂ e₂ =>
      if m₂ = 0 then none
      else if m₁ = 0 then some (zero (n₁ != n₂))
      else
        let (top, bottom) :=
          if e₂ ≤ e₁ then (m₁ * twoTo (e₁ - e₂).toNat, m₂) else (m₁, m₂ * twoTo (e₂ - e₁).toNat)
        some (ofRatio (n₁ != n₂) top bottom)
  | _, _ => none

end Binary64

end ScreenFlow
