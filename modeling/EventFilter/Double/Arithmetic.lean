import EventFilter.Double

/-! Arithmetic of floating point numbers by their bits: order, whole part, conversion to integers
and difference. What is not exact is rounded to the nearest number, from halfway to the even one. -/

namespace EventFilter.Double

/-- The number with these bits below its sign. -/
def ofMagnitude (negative : Bool) (m : Nat) : Double :=
  ⟨UInt64.ofNat (if negative then signBit + m else m)⟩

def nan : Double := ofMagnitude false 0x7ff8000000000000

/-- The order of two numbers. The zeros are equal, and a NaN is in no order. -/
def order? (x y : Double) : Option Ordering :=
  if x.isNaN || y.isNaN then none
  else some (if x.magnitude = 0 && y.magnitude = 0 then .eq else compare x.position y.position)

/-- The whole part, towards zero. The bits of the fraction that stand for less than one are cleared;
of a number below one only the sign is left. -/
def trunc (x : Double) : Double :=
  if x.exponentField < 1023 then ofMagnitude x.isNegative 0
  else
    let cleared := 1075 - x.exponentField
    ofMagnitude x.isNegative (x.magnitude >>> cleared <<< cleared)

/-- The whole part as an integer of 128 bits. What lies beyond these becomes the last of them, and
a NaN becomes zero. -/
def toInt (x : Double) : Int :=
  match x.units? with
  | some u =>
    max (-0x80000000000000000000000000000000) (min 0x7fffffffffffffffffffffffffffffff (u.tdiv one))
  | none => 0

/-- The quotient as the nearest whole number, from halfway the even one. -/
def nearestQuotient (n d : Nat) : Nat :=
  if d < 2 * (n % d) ∨ d = 2 * (n % d) ∧ n / d % 2 = 1 then n / d + 1 else n / d

/-- The bits of the number nearest to a multiple of the unit `2 ^ (-1074)`. All but its first 53
bits are rounded away; a significand rounded up to a power of two carries into the exponent. -/
def nearestMagnitude (n : Nat) : Nat :=
  let dropped := n.log2 - 52
  min infinityMagnitude (dropped * hiddenBit + nearestQuotient n (1 <<< dropped))

/-- The difference. Equal numbers have the difference `0.0`, but `-0.0` less `0.0` is `-0.0`. -/
def sub (x y : Double) : Double :=
  match x.units?, y.units? with
  | some m, some n =>
    if x.isInfinite && y.isInfinite && x.isNegative = y.isNegative then nan
    else if x.isInfinite then x
    else if y.isInfinite then ofMagnitude (!y.isNegative) infinityMagnitude
    else if m = n then ofMagnitude (x.isNegative && !y.isNegative) 0
    else ofMagnitude (m < n) (nearestMagnitude (m - n).natAbs)
  | _, _ => nan

end EventFilter.Double
