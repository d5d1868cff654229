/-!
Double precision numbers taken apart: the exact value of a finite one is a
whole number times a power of two, from which its integer part follows without
rounding.
-/

namespace RoutingPlane.Decimal

/-- The exact value of a finite number: `significand * 2 ^ exponent`, with a
sign that is also kept for zero. -/
structure Dyadic where
  negative : Bool
  significand : Nat
  exponent : Int
  deriving DecidableEq, Repr

inductive Binary64 where
  | finite (value : Dyadic)
  | infinite (negative : Bool)
  | undefined
  deriving DecidableEq, Repr

def Binary64.ofFloat (x : Float) : Binary64 :=
  let bits := x.toBits.toNat
  let negative := decide (bits >>> 63 = 1)
  let biased : Nat := (bits >>> 52) % 2048
  let fraction : Nat := bits % (1 <<< 52)
  if biased = 2047 then
    if fraction = 0 then .infinite negative else .undefined
  else if biased = 0 then .finite ⟨negative, fraction, -1074⟩
  else .finite ⟨negative, fraction + 1 <<< 52, (biased : Int) - 1075⟩

namespace Dyadic

def signed (value : Dyadic) : Int :=
  if value.negative then -(value.significand : Int) else value.significand

def floor (value : Dyadic) : Int :=
  match value.exponent with
  | .ofNat shift => value.signed * Int.ofNat (1 <<< shift)
  | .negSucc shift => Int.fdiv value.signed (Int.ofNat (1 <<< (shift + 1)))

/-- The whole number that remains when the digits after the point are cut off. -/
def truncate (value : Dyadic) : Int :=
  match value.exponent with
  | .ofNat shift => value.signed * Int.ofNat (1 <<< shift)
  | .negSucc shift => Int.tdiv value.signed (Int.ofNat (1 <<< (shift + 1)))

/-- The quotient of two whole numbers rounded to a whole one; a half goes to the
even neighbor. -/
def roundedQuotient (dividend divisor : Nat) : Nat :=
  let whole := dividend / divisor
  let rest := dividend % divisor
  if 2 * rest < divisor || (2 * rest = divisor && whole % 2 = 0) then whole else whole + 1

def precision : Nat := 53

/-- The number with a significand of full precision that is nearest to the ratio
of two positive whole numbers. -/
def ofRatio (negative : Bool) (dividend divisor : Nat) : Dyadic :=
  let above : Int := (dividend.log2 : Int) - divisor.log2 - (precision - 1 : Nat)
  let scaled (exponent : Int) : Nat × Nat :=
    (dividend <<< (-exponent).toNat, divisor <<< exponent.toNat)
  let isFull := decide (1 <<< (precision - 1) ≤ (scaled above).1 / (scaled above).2)
  let exponent := if isFull then above else above - 1
  { negative
    significand := roundedQuotient (scaled exponent).1 (scaled exponent).2
    exponent }

end Dyadic

/-- Whole numbers of at least this size round to infinity. -/
def overflowBound : Nat :=
  1 <<< 1024 - 1 <<< 970

/-- The double precision number nearest to a whole number, if it is finite. -/
def ofInt? (n : Int) : Option Float :=
  if n.natAbs < overflowBound then some (Float.ofInt n) else none

/-- The largest whole number that is not above the quotient of two whole numbers
in double precision, if that quotient is finite. -/
def floorOfRatio? (dividend divisor : Int) : Option Int :=
  if dividend = 0 then some 0
  else
    let negative := decide (dividend < 0) != decide (divisor < 0)
    let nearest := Dyadic.ofRatio negative dividend.natAbs divisor.natAbs
    if nearest.floor.natAbs < 1 <<< 1024 then some nearest.floor else none

example : floorOfRatio? 7 2 = some 3 ∧ floorOfRatio? (-7) 2 = some (-4) ∧
    floorOfRatio? 18014398509481983 18014398509481984 = some 1 := by decide +kernel

end RoutingPlane.Decimal
