import Keystroke.Decimal.Binary64

/-!
The shortest decimal text of a double: the fewest digits that read back as the same double, and
of those the nearest to it.

The reals that round to a double form an interval around it, with its ends where the significand
is even. On the grid of multiples of a power of ten, a point of the interval exists only if one of
the two neighbours of the double on that grid is one; the coarsest grid with such a point gives
the fewest digits.

* `Binary64.onGrid?`: the neighbour on a grid that reads back;
* `Binary64.shortest`: the digits and the power of ten of the shortest text;
* `Decimal.text`: its layout, positional from `1e-5` up to `1e16` and with an exponent otherwise.
-/

namespace Keystroke.Decimal

namespace Binary64

/-- A point of the grid of multiples of `10 ^ g`, in units of a quarter of the last binary place
of `x`, as a quotient with the denominator `gridDen`. -/
def gridNum (x : Binary64) (g : Int) (n : Nat) : Nat :=
  (n * Nat.pow 10 g.toNat) <<< (2 - x.exponent).toNat

/-- The denominator that goes with `gridNum`. -/
def gridDen (x : Binary64) (g : Int) : Nat :=
  Nat.pow 10 (-g).toNat <<< (x.exponent - 2).toNat

/-- The lower end of the interval that rounds to `x`, in quarters of the last place. Below a power
of two the next double is only half a unit away. -/
def lowerEnd (x : Binary64) : Nat :=
  if x.significand = 1 <<< 52 ∧ -1074 < x.exponent then 4 * x.significand - 1
  else 4 * x.significand - 2

/-- The upper end of the interval that rounds to `x`, in quarters of the last place. -/
def upperEnd (x : Binary64) : Nat :=
  4 * x.significand + 2

/-- Whether the point `n · 10 ^ g` rounds to `x`. -/
def readsBack (x : Binary64) (g : Int) (n : Nat) : Bool :=
  let p := x.gridNum g n
  let d := x.gridDen g
  if x.significand % 2 = 0 then x.lowerEnd * d ≤ p && p ≤ x.upperEnd * d
  else x.lowerEnd * d < p && p < x.upperEnd * d

/-- The neighbour of `x` on the grid of multiples of `10 ^ g` that rounds to `x`; of two, the
nearer one, and the even one if both are equally near. -/
def onGrid? (x : Binary64) (g : Int) : Option Nat :=
  let num := 4 * x.significand * x.gridDen g
  let den := x.gridNum g 1
  let below := num / den
  let nearest := roundDiv num den
  let other := below + (below + 1) - nearest
  if 0 < nearest && x.readsBack g nearest then some nearest
  else if 0 < other && x.readsBack g other then some other
  else none

/-- The digits, as one number, and the power of ten of the shortest text of a positive double. A
grid of `10 ^ (-324)` is fine enough for the smallest one. -/
def shortest (x : Binary64) : Nat × Int :=
  ((List.range 633).findSome? fun (i : Nat) =>
      (x.onGrid? (308 - i)).map fun n => (n, 308 - (i : Int))).getD (0, 0)

end Binary64

/-- As many noughts. -/
def noughts (n : Nat) : List Char :=
  List.replicate n '0'

/-- Digits with a point after the first `whole` of them, and a nought on either side of the point
where nothing else stands. -/
def pointed (digits : List Char) (whole : Int) : List Char :=
  if (digits.length : Int) ≤ whole then
    digits ++ noughts (whole - digits.length).toNat ++ ['.', '0']
  else if 0 < whole then
    digits.take whole.toNat ++ '.' :: digits.drop whole.toNat
  else
    '0' :: '.' :: (noughts (-whole).toNat ++ digits)

/-- Digits with a point after the first, and an exponent with its sign. -/
def scientific (digits : List Char) (exponent : Int) : List Char :=
  digits.take 1 ++ (if digits.length ≤ 1 then [] else '.' :: digits.drop 1) ++
    'e' :: (if exponent < 0 then '-' else '+') :: Nat.toDigits 10 exponent.natAbs

/-- The shortest text of a double: positional from `1e-5` up to `1e16`, with an exponent
otherwise. -/
def text (x : Binary64) : List Char :=
  if x.isZero then ['0', '.', '0']
  else
    let (n, g) := x.shortest
    let digits := Nat.toDigits 10 n
    let leading := g + digits.length - 1
    if -5 ≤ leading ∧ leading < 16 then pointed digits (leading + 1)
    else scientific digits leading

end Keystroke.Decimal
