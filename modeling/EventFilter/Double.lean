import EventFilter.Decimal.Shortest

/-! Floating point numbers of 64 bits, given by their bits. Every number other than a NaN is a
multiple of `2 ^ (-1074)`, so that order and comparison with integers are exact. -/

namespace EventFilter

structure Double where
  bits : UInt64
  deriving DecidableEq

namespace Double

def signBit : Nat := 0x8000000000000000

/-- The unit of the exponent field, which a normal number adds to its fraction. -/
def hiddenBit : Nat := 0x10000000000000

def isNegative (x : Double) : Bool := signBit ≤ x.bits.toNat

/-- The bits below the sign. -/
def magnitude (x : Double) : Nat := x.bits.toNat % signBit

def exponentField (x : Double) : Nat := x.magnitude / hiddenBit

def fraction (x : Double) : Nat := x.magnitude % hiddenBit

def infinityMagnitude : Nat := 2047 * hiddenBit

def isNaN (x : Double) : Bool := infinityMagnitude < x.magnitude

def isInfinite (x : Double) : Bool := x.magnitude = infinityMagnitude

/-- The digits of the binary scientific form as an integer, with the hidden bit of a normal
number. -/
def significand (x : Double) : Nat :=
  if x.exponentField = 0 then x.fraction else hiddenBit + x.fraction

/-- The absolute value in units of `2 ^ (-1074)`. An infinity counts as `2 ^ 1024`, which lies
beyond every finite number and every integer of 64 bits. -/
def absUnits (x : Double) : Nat := x.significand <<< (x.exponentField - 1)

/-- The number one in units of `2 ^ (-1074)`. -/
def one : Nat := 1 <<< 1074

/-- The value in units of `2 ^ (-1074)`; none for a NaN. -/
def units? (x : Double) : Option Int :=
  if x.isNaN then none
  else some (if x.isNegative then -(x.absUnits : Int) else x.absUnits)

/-- The position in the total order of all bit patterns: from the negative NaNs over the numbers,
with `-0.0` before `0.0`, to the positive NaNs. -/
def position (x : Double) : Int :=
  if x.isNegative then -(x.magnitude : Int) - 1 else x.magnitude

theorem position_injective {x y : Double} (h : x.position = y.position) : x = y := by
  have hx := x.bits.toNat_lt
  have hy := y.bits.toNat_lt
  have : x.bits.toNat = y.bits.toNat := by
    simp only [position, isNegative, magnitude, decide_eq_true_eq] at h
    unfold signBit at h
    split at h <;> split at h <;> omega
  cases x; cases y
  simpa [← UInt64.toNat_inj] using this

/-- The reals that round to the number. The gap below a power of two is half the gap above it. -/
def interval (x : Double) : Decimal.Interval :=
  let m := x.significand
  let narrow := x.fraction = 0 && 1 < x.exponentField
  { low := 4 * m - (if narrow then 1 else 2)
    mid := 4 * m
    high := 4 * m + 2
    exponent := (max x.exponentField 1 : Nat) - 1077
    closed := m % 2 = 0 }

/-- Digits with the decimal point after the first `point` of them. -/
def positional (digits : List Char) (point : Int) : List Char :=
  if point ≤ 0 then
    '0' :: '.' :: (List.replicate (-point).toNat '0' ++ digits)
  else if digits.length ≤ point.toNat then
    digits ++ List.replicate (point.toNat - digits.length) '0' ++ ['.', '0']
  else
    digits.take point.toNat ++ '.' :: digits.drop point.toNat

/-- One digit before the point and a power of ten behind the others. -/
def exponential (digits : List Char) (point : Int) : List Char :=
  digits.take 1 ++ (if digits.length ≤ 1 then [] else '.' :: digits.drop 1) ++
    'e' :: (toString (point - 1)).toList

/-- The fewest digits that read back: positional from `1e-4` up to `1e16`, else with a power
of ten. A NaN shows no sign. -/
def text (x : Double) : String :=
  let unsigned : List Char :=
    if x.isInfinite then "inf".toList
    else if x.magnitude = 0 then "0.0".toList
    else
      let s := Decimal.shortest x.interval
      let digits := Nat.toDigits 10 s.digits
      let point := digits.length + s.exponent
      if -4 < point ∧ point ≤ 16 then positional digits point else exponential digits point
  if x.isNaN then "NaN"
  else String.ofList (if x.isNegative then '-' :: unsigned else unsigned)

end Double

end EventFilter
