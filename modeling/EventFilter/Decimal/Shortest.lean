/-! The shortest decimal within a rounding interval. A binary value and the ends of its interval
are multiples of one power of two; all comparisons cross-multiply natural numbers. -/

namespace EventFilter.Decimal

/-- The values `low`, `mid` and `high`, each times `2 ^ exponent`. The ends belong to the interval
when it is closed. -/
structure Interval where
  low : Nat
  mid : Nat
  high : Nat
  exponent : Int
  closed : Bool

/-- The number `digits * 10 ^ exponent`. -/
structure Scientific where
  digits : Nat
  exponent : Int
  deriving DecidableEq

/-- The factors that `c * 10 ^ p` and `m * 2 ^ e` take when both are brought to integers. -/
def scales (p e : Int) : Nat × Nat :=
  (Nat.pow 10 p.toNat <<< (-e).toNat, Nat.pow 10 (-p).toNat <<< e.toNat)

def Interval.contains (i : Interval) (s : Scientific) : Bool :=
  let (f, g) := scales s.exponent i.exponent
  let x := s.digits * f
  if i.closed then i.low * g ≤ x && x ≤ i.high * g else i.low * g < x && x < i.high * g

/-- The least `k` with `mid < 10 ^ k`, for a value that is at least `10 ^ (-400)`. -/
def Interval.magnitude (i : Interval) : Int :=
  let (f, g) := scales (-400) i.exponent
  (Nat.toDigits 10 (i.mid * g / f)).length - 400

/-- The two neighbours of the value on the grid of multiples of `10 ^ p`: of those in the interval
the nearer one, and the upper one when both are equally near. -/
def Interval.nearest? (i : Interval) (p : Int) : Option Scientific :=
  let (f, g) := scales p i.exponent
  let below := i.mid * g / f
  let distance := i.mid * g - below * f
  let down : Scientific := ⟨below, p⟩
  let up : Scientific := ⟨below + 1, p⟩
  match i.contains down, i.contains up with
  | true, true => if 2 * distance < f then some down else some up
  | true, false => some down
  | false, true => some up
  | false, false => none

/-- Moves zeros at the end of the digits into the exponent. -/
def Scientific.trim : Nat → Scientific → Scientific
  | 0, s => s
  | n + 1, s => if s.digits % 10 = 0 then trim n ⟨s.digits / 10, s.exponent + 1⟩ else s

/-- The coarsest grid with a point in the interval wins; seventeen digits are always enough. -/
def shortest (i : Interval) : Scientific :=
  let grids := (List.range 17).map fun n => i.magnitude - (n + 1 : Nat)
  (grids.findSome? i.nearest?).getD ⟨0, 0⟩ |>.trim 20

end EventFilter.Decimal
