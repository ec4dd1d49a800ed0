import Steward.Json.Double
import Steward.Json.Numeral

/-!
# Shortest decimals

The decimal with the fewest digits among those that round to a number of double precision, and the
way it is written: with a point if the first digit is not far from it, or else with an exponent.
-/

namespace Steward.Double

open Steward.Text

/-- The decimal `m` with its last `places` digits after the point, as the nearest number. -/
def ofDecimal (m : Nat) (places : Int) : Double :=
  nearest (m * Nat.pow 10 (-places).toNat * one) (Nat.pow 10 places.toNat)

/-- How many digits a number has before the point; fewer than none if zeros follow the point. -/
def magnitude (x : Double) : Int :=
  (digits (x * Nat.pow 10 400 / one)).length - 400

/-- The decimal nearest to a number that rounds to it, among those with `places` digits after the
point. Of two equally near ones it is the even one. -/
def decimalOf? (x : Double) (places : Int) : Option Nat :=
  let n := x * Nat.pow 10 places.toNat
  let d := one * Nat.pow 10 (-places).toNat
  let below := n / d
  let above := below + 1
  let isNearAbove := d < 2 * (n % d) ∨ (2 * (n % d) = d ∧ below % 2 = 1)
  match ofDecimal below places == x, ofDecimal above places == x with
  | true, true => some (if isNearAbove then above else below)
  | true, false => some below
  | false, true => some above
  | false, false => none

/-- The digits of the shortest decimal, without zeros at either end, and how many of them stand
before the point. Seventeen digits are enough for every number. -/
def shortest (x : Double) : List Digit × Int :=
  let point := magnitude x
  let found := (List.range 17).findSome? fun (i : Nat) =>
    let places : Int := (i + 1 : Nat) - point
    (decimalOf? x places).map (·, places)
  match found with
  | some (m, places) =>
    let all := digits m
    ((all.reverse.dropWhile (· == Digit.zero)).reverse, all.length - places)
  | none => ([], 0)

def zeros (count : Int) : List Digit :=
  List.replicate count.toNat Digit.zero

/-- The written form of digits of which `point` stand before the point. -/
def layOut (negative : Bool) (ds : List Digit) (point : Int) : Numeral :=
  if ds.length ≤ point ∧ point ≤ 16 then
    { negative := negative, whole := ds ++ zeros (point - ds.length), fraction := [Digit.zero] }
  else if 0 < point ∧ point ≤ 16 then
    { negative := negative, whole := ds.take point.toNat, fraction := ds.drop point.toNat }
  else if -5 < point ∧ point ≤ 0 then
    { negative := negative, whole := [Digit.zero], fraction := zeros (-point) ++ ds }
  else
    { negative := negative, whole := ds.take 1, fraction := ds.drop 1
      exponent := some (point < 1, digits (point - 1).natAbs) }

def numeral (negative : Bool) (x : Double) : Numeral :=
  if x = 0 then { negative := negative, whole := [Digit.zero], fraction := [Digit.zero] }
  else layOut negative (shortest x).1 (shortest x).2

end Steward.Double
