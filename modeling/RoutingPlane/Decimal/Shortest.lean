import RoutingPlane.Decimal.Binary64

/-!
Decimal text of double precision numbers: the fewest digits that read back as
the same number, and of those the nearest. Numbers from `0.0001` up to below
`10 ^ 16` are written with a point, all others with an exponent.
-/

namespace RoutingPlane.Decimal

/-- The decimal `coefficient * 10 ^ exponent`. -/
structure Scaled where
  coefficient : Nat
  exponent : Int
  deriving DecidableEq, Repr

def digits (n : Nat) : List Char :=
  Nat.toDigits 10 n

/-- The positive numbers that round to a given one, in units of a quarter of
its last binary place: all between two bounds, which belong to the interval if
the significand is even. -/
structure Rounding where
  low : Nat
  middle : Nat
  high : Nat
  closed : Bool
  deriving DecidableEq, Repr

/-- The interval of a positive number. Below a power of two the numbers lie
closer together. -/
def Rounding.ofDyadic (value : Dyadic) : Rounding where
  low :=
    if value.significand = 1 <<< 52 ∧ value.exponent ≠ -1074 then 4 * value.significand - 1
    else 4 * value.significand - 2
  middle := 4 * value.significand
  high := 4 * value.significand + 2
  closed := decide (value.significand % 2 = 0)

/-- Whether `point`, in units of `unit`, lies in the interval whose bounds are
in units of `quarter`. -/
def Rounding.admits (interval : Rounding) (quarter unit point : Nat) : Bool :=
  if interval.closed then
    decide (interval.low * quarter ≤ point * unit) && decide (point * unit ≤ interval.high * quarter)
  else
    decide (interval.low * quarter < point * unit) && decide (point * unit < interval.high * quarter)

/-- The admitted neighbour of the number on the grid of a decimal place; of two
the nearer one, and of two equally near ones the even one. -/
def nearestOnGrid (interval : Rounding) (binaryPlace place : Int) : Option Scaled :=
  let quarter := Nat.pow 10 (-place).toNat <<< (binaryPlace - 2).toNat
  let unit := Nat.pow 10 place.toNat <<< (2 - binaryPlace).toNat
  let exact := interval.middle * quarter
  let below := exact / unit
  let rest := exact % unit
  let preferAbove := decide (unit < 2 * rest) || (decide (2 * rest = unit) && decide (below % 2 = 1))
  let first := if preferAbove then below + 1 else below
  let second := if preferAbove then below else below + 1
  if interval.admits quarter unit first then some ⟨first, place⟩
  else if interval.admits quarter unit second then some ⟨second, place⟩
  else none

/-- A power of ten above the number, by the count of its digits before the
point or of the digits of its reciprocal. -/
def leadingPlace (value : Dyadic) : Int :=
  let numerator := value.significand <<< value.exponent.toNat
  let denominator := 1 <<< (-value.exponent).toNat
  if denominator ≤ numerator then ((digits (numerator / denominator)).length : Int)
  else 1 - ((digits (denominator / numerator)).length : Int)

/-- The decimal with the fewest digits that rounds to a positive number. -/
def shortest (value : Dyadic) : Scaled :=
  let place := leadingPlace value
  let interval := Rounding.ofDyadic value
  ((List.range 18).findSome? fun count =>
      nearestOnGrid interval value.exponent (place - (count + 1 : Nat))).getD
    ⟨value.significand, value.exponent⟩

/-- A decimal without zeros at the end of its coefficient. -/
def Scaled.significantDigits (decimal : Scaled) : List Char :=
  ((digits decimal.coefficient).reverse.dropWhile (· = '0')).reverse

def exponentText (exponent : Int) : List Char :=
  let ofSize := digits exponent.natAbs
  (if exponent < 0 then '-' else '+') :: (if ofSize.length < 2 then '0' :: ofSize else ofSize)

def Scaled.text (decimal : Scaled) : List Char :=
  let kept := decimal.significantDigits
  let point : Int := (digits decimal.coefficient).length + decimal.exponent
  if -4 < point ∧ point ≤ 16 then
    if point ≤ 0 then '0' :: '.' :: (List.replicate (-point).toNat '0' ++ kept)
    else if kept.length ≤ point.toNat then
      kept ++ List.replicate (point.toNat - kept.length) '0' ++ ['.', '0']
    else kept.take point.toNat ++ '.' :: kept.drop point.toNat
  else
    kept.take 1 ++ (if kept.length ≤ 1 then [] else '.' :: kept.drop 1) ++
      'e' :: exponentText (point - 1)

def floatText (x : Float) : String :=
  match Binary64.ofFloat x with
  | .undefined => "nan"
  | .infinite negative => if negative then "-inf" else "inf"
  | .finite value =>
      let unsigned := if value.significand = 0 then ['0', '.', '0'] else (shortest value).text
      String.ofList (if value.negative then '-' :: unsigned else unsigned)

example : floatText (0.1 + 0.2) = "0.30000000000000004" := by decide +kernel

example : floatText 1e16 = "1e+16" ∧ floatText 123456.0 = "123456.0" := by decide +kernel

end RoutingPlane.Decimal
