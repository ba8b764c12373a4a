import PointerBindings.Text.Basic

/-! # Shortest decimals — a number as the fewest digits that read back

    A decimal number is held as a double, the nearest one with the even mantissa on
    a tie, and shown as the shortest decimal that lies nearer to that double than to
    any other.  All of it is exact arithmetic: a double is `m · 2 ^ q`, the decimals
    that read back to it fill an interval around it that includes its ends when `m`
    is even, and on the grid of a given number of digits only the two neighbours of
    the double can lie inside.  The first grid with a hit has the fewest digits, and
    of two hits the nearer is taken. -/

namespace PointerBindings

/-- A decimal as it is written: a sign, digits and a power of ten. -/
structure Decimal where
  negative : Bool
  digits : Nat
  exponent : Int
deriving DecidableEq, Inhabited

/-- The magnitude of a double. -/
inductive Magnitude where
  | infinite
  /-- The number `mantissa · 2 ^ exponent`. -/
  | finite (mantissa : Nat) (exponent : Int)
deriving DecidableEq

namespace Decimal

/-! ## The nearest double -/

/-- A quotient rounded to the nearest whole number, a tie to the even one. -/
def roundHalfEven (numerator denominator : Nat) : Nat :=
  let low := numerator / denominator
  let twice := 2 * (numerator % denominator)
  if twice < denominator then low
  else if denominator < twice then low + 1
  else low + low % 2

/-- A positive power of the base where the exponent is positive, else one. -/
def powerUp (base : Nat) (exponent : Int) : Nat :=
  Nat.pow base exponent.toNat

/-- The double nearest to `numerator / denominator`. -/
def nearestDouble (numerator denominator : Nat) : Magnitude :=
  if numerator = 0 then .finite 0 0
  else
    -- the quotient lies between `2 ^ (scale - 1)` and `2 ^ (scale + 1)`
    let scale : Int := (Nat.log2 numerator : Int) - Nat.log2 denominator
    let atLeast : Bool :=
      powerUp 2 scale * denominator ≤ numerator * powerUp 2 (-scale)
    let top : Int := if atLeast then scale else scale - 1
    let q : Int := max (top - 52) (-1074)
    let m := roundHalfEven (numerator * powerUp 2 (-q)) (denominator * powerUp 2 q)
    let (m, q) := if m = powerUp 2 53 then (powerUp 2 52, q + 1) else (m, q)
    if 971 < q then .infinite else .finite m q

/-- The magnitude of the double that the decimal is held as.  Beyond four hundred
    places in either direction nothing is left to compute. -/
def magnitude (d : Decimal) : Magnitude :=
  let size : Int := d.exponent + (Nat.repr d.digits).length
  if d.digits = 0 || size < -400 then .finite 0 0
  else if 400 < size then .infinite
  else nearestDouble (d.digits * powerUp 10 d.exponent) (powerUp 10 (-d.exponent))

/-! ## The shortest digits -/

/-- The decimal on the grid of `10 ^ e` that reads back to the double `m · 2 ^ q`. -/
def onGrid? (m : Nat) (q e : Int) : Option Nat :=
  -- everything is counted in quarters of the last binary place
  let up := powerUp 2 (q - 2) * powerUp 10 (-e)
  let down := powerUp 2 (2 - q) * powerUp 10 e
  let below := if m = powerUp 2 52 && -1074 < q then 1 else 2
  let value := 4 * m * up
  let low := (4 * m - below) * up
  let high := (4 * m + 2) * up
  let closed := m % 2 == 0
  let inside (d : Nat) : Bool :=
    let x := d * down
    if closed then low ≤ x && x ≤ high else low < x && x < high
  let floor := value / down
  let distanceBelow := value - floor * down
  let distanceAbove := (floor + 1) * down - value
  match inside floor, inside (floor + 1) with
  | true, true =>
      some (if distanceBelow < distanceAbove then floor
        else if distanceAbove < distanceBelow then floor + 1
        else floor + floor % 2)
  | true, false => some floor
  | false, true => some (floor + 1)
  | false, false => none

/-- The decimal exponent of a positive double: it lies below `10 ^ e`, and not below
    `10 ^ (e - 1)`; found by walking up from a lower bound. -/
def leadingPlace (m : Nat) (q : Int) : Nat → Int → Int
  | 0, e => e
  | fuel + 1, e =>
      if m * powerUp 2 q * powerUp 10 (-e) < powerUp 2 (-q) * powerUp 10 e then e
      else leadingPlace m q fuel (e + 1)

/-- The shortest digits for a positive double and the place of its point: the number
    is `0.digits · 10 ^ place`. -/
def shortest (m : Nat) (q : Int) : Text × Int :=
  let place := leadingPlace m q 800 (-330)
  let hit := (List.range 17).findSome? fun (n : Nat) =>
    (onGrid? m q (place - (n + 1))).map fun d => (d, place - (n + 1))
  let (d, e) := hit.getD (m, 0)
  let digits := (Nat.repr d).toList
  let kept := (digits.reverse.dropWhile (· == '0')).reverse
  (kept, e + digits.length)

/-! ## The text -/

/-- Zeros. -/
def zeros (n : Nat) : Text :=
  List.replicate n '0'

/-- Digits with their point: written out while the point stays within four zeros in
    front and sixteen digits behind, else with an exponent of at least two digits. -/
def placed (digits : Text) (place : Int) : Text :=
  if -4 < place ∧ place ≤ 0 then "0.".toList ++ zeros (-place).toNat ++ digits
  else if 0 < place ∧ place ≤ 16 then
    let n := place.toNat
    if digits.length ≤ n then digits ++ zeros (n - digits.length) ++ ".0".toList
    else digits.take n ++ '.' :: digits.drop n
  else
    let e := place - 1
    let size := (Nat.repr e.natAbs).toList
    digits.take 1 ++ (if digits.length ≤ 1 then [] else '.' :: digits.drop 1) ++ 'e'
      :: (if e < 0 then '-' else '+')
      :: ((if size.length < 2 then ['0'] else []) ++ size)

/-- A decimal shown as the shortest one that is held as the same double. -/
def toText (d : Decimal) : Text :=
  (if d.negative then ['-'] else []) ++
    (match d.magnitude with
      | .infinite => "inf".toList
      | .finite 0 _ => "0.0".toList
      | .finite m q => let (digits, place) := shortest m q; placed digits place)

end Decimal

end PointerBindings
