set_option autoImplicit false

/-!
# Binary floating point of 64 bits

The finite numbers of the format as exact values, and the rounding of a ratio to the nearest of
them. No floating point operation of the machine is used.
-/

namespace CommandSynthesis

/-- The number `mantissa · 2 ^ exponent`, with its sign; the mantissa has at most 53 bits, and
exactly 53 unless the exponent is the least. -/
structure Binary64 where
  negative : Bool
  mantissa : Nat
  exponent : Int
  deriving DecidableEq, Repr, Inhabited

namespace Binary64

def precision : Nat := 53

def minExponent : Int := -1074

def maxExponent : Int := 971

/-- Multiplies or divides a ratio by a power of two, as the sign of the exponent says. -/
def scaleRatio (num den : Nat) (exponent : Int) : Nat × Nat :=
  match exponent with
  | .ofNat e => (num * Nat.pow 2 e, den)
  | .negSucc e => (num, den * Nat.pow 2 (e + 1))

/-- The exponent at which the ratio has a mantissa of 53 bits, or the least exponent. -/
def exponentOf (num den : Nat) : Int :=
  let high : Int := (num.log2 : Int) - den.log2 - (precision - 1)
  let (n, d) := scaleRatio num den (-high)
  max (if n / d < Nat.pow 2 (precision - 1) then high - 1 else high) minExponent

/-- The quotient of two numbers rounded to the nearest, ties to even. -/
def roundDiv (num den : Nat) : Nat :=
  let quotient := num / den
  let rest := num % den
  if 2 * rest > den ∨ (2 * rest = den ∧ quotient % 2 = 1) then quotient + 1 else quotient

/-- The number nearest to a ratio; none when the ratio is beyond the largest. -/
def ofRatio? (negative : Bool) (num den : Nat) : Option Binary64 :=
  if num = 0 then some ⟨negative, 0, minExponent⟩
  else
    let exponent := exponentOf num den
    let (n, d) := scaleRatio num den (-exponent)
    let mantissa := roundDiv n d
    let (mantissa, exponent) :=
      if mantissa = Nat.pow 2 precision then (Nat.pow 2 (precision - 1), exponent + 1)
      else (mantissa, exponent)
    if exponent ≤ maxExponent then some ⟨negative, mantissa, exponent⟩ else none

/-- The magnitude of a number as a ratio. -/
def toRatio (x : Binary64) : Nat × Nat :=
  scaleRatio x.mantissa 1 x.exponent

/-- The largest power of ten with a number of the format near it. -/
def maxPower : Nat := 308

/-- The number nearest to a power of ten up to the largest. -/
def powerOfTen (power : Nat) : Binary64 :=
  (ofRatio? false (Nat.pow 10 power) 1).getD default

/-- Multiplies a number by a power of ten that is itself rounded, and rounds. -/
def mulPower? (x : Binary64) (power : Nat) : Option Binary64 :=
  let (num, den) := x.toRatio
  let (powerNum, powerDen) := (powerOfTen power).toRatio
  ofRatio? x.negative (num * powerNum) (den * powerDen)

/-- Divides a number by a power of ten that is itself rounded, and rounds. -/
def divPower? (x : Binary64) (power : Nat) : Option Binary64 :=
  let (num, den) := x.toRatio
  let (powerNum, powerDen) := (powerOfTen power).toRatio
  ofRatio? x.negative (num * powerDen) (den * powerNum)

/-- Divides by the largest power of ten a number of times, then by the rest of a power. -/
def divPowers? (x : Binary64) (rest : Nat) : Nat → Option Binary64
  | 0 => x.divPower? rest
  | times + 1 =>
    if x.mantissa = 0 then some x
    else (x.divPower? maxPower).bind fun quotient => quotient.divPowers? rest times

/-- The number written as a significand and a power of ten: the significand is rounded first, and
scaled by one operation when the power is in reach. None when the result is too large. -/
def ofDecimal? (negative : Bool) (significand : Nat) (power : Int) : Option Binary64 :=
  (ofRatio? negative significand 1).bind fun x =>
    match power with
    | .ofNat p =>
      if x.mantissa = 0 then some x
      else if p ≤ maxPower then x.mulPower? p
      else none
    | .negSucc p => x.divPowers? ((p + 1) % maxPower) ((p + 1) / maxPower)

end Binary64

end CommandSynthesis
