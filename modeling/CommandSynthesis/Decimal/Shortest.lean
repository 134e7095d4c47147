import CommandSynthesis.Decimal.Binary64
import CommandSynthesis.Decimal.Digits

set_option autoImplicit false

/-!
# Shortest decimal text

The decimal digits, as few as possible, that round to a given number of 64 bits, and among as few
digits the nearest to it; and how such digits are written.
-/

namespace CommandSynthesis

namespace Binary64

/-- The ratio multiplied or divided by a power of ten. -/
def scaleTen (num den : Nat) (power : Int) : Nat × Nat :=
  match power with
  | .ofNat p => (num * Nat.pow 10 p, den)
  | .negSucc p => (num, den * Nat.pow 10 (p + 1))

/-- The reals that round to a number, in quarters of the last place of its mantissa. -/
structure Interval where
  low : Nat
  high : Nat
  closed : Bool

/-- The reals that round to a number. Below a power of two the lower neighbour is at half the
distance. -/
def interval (x : Binary64) : Interval :=
  let below := if x.mantissa = Nat.pow 2 (precision - 1) ∧ x.exponent ≠ minExponent then 1 else 2
  ⟨4 * x.mantissa - below, 4 * x.mantissa + 2, x.mantissa % 2 = 0⟩

def Interval.contains (interval : Interval) (num den : Nat) : Bool :=
  let low := interval.low * den
  let high := interval.high * den
  if interval.closed then low ≤ num && num ≤ high else low < num && num < high

/-- The two multiples of a power of ten around a number, those of them that round to it. -/
def candidates (x : Binary64) (power : Int) : List Nat :=
  let (num, den) := scaleRatio (4 * x.mantissa) 1 (x.exponent - 2)
  let (n, d) := scaleTen num den (-power)
  let quotient := n / d
  [quotient, quotient + 1].filter fun candidate =>
    let (a, b) := scaleTen candidate 1 power
    let (a, b) := scaleRatio a b (2 - x.exponent)
    0 < candidate && x.interval.contains a b

/-- Whether the first of two neighbouring multiples of a power of ten is at least as near. -/
def nearerLow (x : Binary64) (power : Int) (low : Nat) : Bool :=
  let (num, den) := scaleRatio (4 * x.mantissa) 1 (x.exponent - 2)
  let (n, d) := scaleTen num den (-power)
  let twice := 2 * n
  let middle := (2 * low + 1) * d
  twice < middle || (twice == middle && low % 2 == 0)

/-- The best multiple of a power of ten that rounds to the number. -/
def best? (x : Binary64) (power : Int) : Option Nat :=
  match x.candidates power with
  | [] => none
  | [candidate] => some candidate
  | low :: high :: _ => some (if x.nearerLow power low then low else high)

/-- Tries ever smaller powers of ten, `steps` at most. -/
def shortestFrom (x : Binary64) (power : Int) : Nat → Nat × Int
  | 0 => (0, 0)
  | steps + 1 =>
    match x.best? power with
    | some candidate => (candidate, power)
    | none => x.shortestFrom (power - 1) steps

/-- The significand and the power of ten of the shortest decimal that rounds to the number. -/
def shortest (x : Binary64) : Nat × Int :=
  if x.mantissa = 0 then (0, 0)
  else
    let (num, den) := x.toRatio
    let magnitude : Int :=
      if den ≤ num then (Decimal.digits (num / den)).length
      else 1 - (Decimal.digits (den / num)).length
    x.shortestFrom magnitude 800

/-- Digits without the zeros at their end, and how many there were. -/
def stripZeros (text : List Char) : List Char × Nat :=
  let kept := (text.reverse.dropWhile (· == '0')).reverse
  (kept, text.length - kept.length)

/-- How a number is written: positionally when its point stands from five places before its digits
to sixteen after them, else with an exponent. A positional number keeps a fraction. -/
def print (x : Binary64) : String :=
  let sign := if x.negative then "-" else ""
  if x.mantissa = 0 then sign ++ "0.0"
  else
    let (significand, power) := x.shortest
    let (text, zeros) := stripZeros (Decimal.digits significand)
    let power := power + zeros
    let point : Int := text.length + power
    let body : List Char :=
      if 0 ≤ power ∧ point ≤ 16 then text ++ List.replicate power.toNat '0' ++ ['.', '0']
      else if 0 < point ∧ point ≤ 16 then text.take point.toNat ++ '.' :: text.drop point.toNat
      else if -5 < point ∧ point ≤ 0 then
        ['0', '.'] ++ List.replicate (-point).toNat '0' ++ text
      else
        let mark := if 0 < point then ['e', '+'] else ['e', '-']
        let lead := if text.length = 1 then text else text.take 1 ++ '.' :: text.drop 1
        lead ++ mark ++ Decimal.digits (point - 1).natAbs
    sign ++ String.ofList body

end Binary64

end CommandSynthesis
