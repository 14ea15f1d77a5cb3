/-!
Finite non-negative doubles, as whole numbers of units that are powers of two.

* `Decimal.roundDiv`: the nearest whole number to a quotient;
* `Binary64.ofRatio?`: the nearest double to a quotient, none past the largest one;
* `Binary64.timesPowerOfTen?`: a double times a power of ten, rounded at each of its steps.
-/

namespace Keystroke.Decimal

/-- The nearest whole number to `num / den`; of two equally near, the even one. -/
def roundDiv (num den : Nat) : Nat :=
  if 2 * (num % den) < den then num / den
  else if den < 2 * (num % den) then num / den + 1
  else num / den + num / den % 2

/-- A finite non-negative double: `significand · 2 ^ exponent`, the significand below `2 ^ 53` and
the exponent at least `-1074`. -/
structure Binary64 where
  /-- How many units there are. -/
  significand : Nat
  /-- The unit, as a power of two. -/
  exponent : Int
  deriving DecidableEq

namespace Binary64

/-- Nought. -/
def zero : Binary64 :=
  ⟨0, -1074⟩

/-- Whether a double is nought. -/
def isZero (x : Binary64) : Bool :=
  x.significand = 0

/-- The numerator of the value of a double. -/
def num (x : Binary64) : Nat :=
  x.significand <<< x.exponent.toNat

/-- The denominator of the value of a double. -/
def den (x : Binary64) : Nat :=
  1 <<< (-x.exponent).toNat

/-- The unit in which a positive quotient has 53 binary digits, or the smallest unit there is. -/
def unitOf (num den : Nat) : Int :=
  let k : Int := (Nat.log2 num : Int) - (Nat.log2 den : Int)
  max (-1074) (if num <<< (-k).toNat < den <<< k.toNat then k - 53 else k - 52)

/-- A double in normal form: a significand that rounding has carried to 54 digits loses its last
one. There is none past the largest double. -/
def normal? (significand : Nat) (exponent : Int) : Option Binary64 :=
  if significand < 1 <<< 53 then
    if exponent ≤ 971 then some ⟨significand, exponent⟩ else none
  else if exponent + 1 ≤ 971 then some ⟨significand / 2, exponent + 1⟩ else none

/-- The nearest double to `num / den`. -/
def ofRatio? (num den : Nat) : Option Binary64 :=
  if num = 0 then some zero
  else
    let e := unitOf num den
    normal? (roundDiv (num <<< (-e).toNat) (den <<< e.toNat)) e

/-- The nearest double to a whole number. -/
def ofNat? (n : Nat) : Option Binary64 :=
  ofRatio? n 1

/-- The rounded product of two doubles. -/
def mul? (x y : Binary64) : Option Binary64 :=
  ofRatio? (x.num * y.num) (x.den * y.den)

/-- The rounded quotient of two doubles. -/
def div? (x y : Binary64) : Option Binary64 :=
  ofRatio? (x.num * y.den) (x.den * y.num)

/-- The nearest double to a power of ten. -/
def powerOfTen? (k : Nat) : Option Binary64 :=
  ofNat? (Nat.pow 10 k)

/-- A double times a power of ten. The power is taken as a double of its own, at most `10 ^ 308`
at a time, and every step rounds. -/
def timesPowerOfTen? (x : Binary64) (k : Int) : Option Binary64 :=
  if 0 ≤ k then
    if k ≤ 308 then do x.mul? (← powerOfTen? k.toNat)
    else if x.isZero then some x
    else none
  else if -308 ≤ k then do x.div? (← powerOfTen? (-k).toNat)
  else if x.isZero then some x
  else do timesPowerOfTen? (← x.div? (← powerOfTen? 308)) (k + 308)
termination_by (-k).toNat

end Binary64

end Keystroke.Decimal
