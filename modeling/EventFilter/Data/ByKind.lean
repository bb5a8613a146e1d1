import EventFilter.Data.Basic
import EventFilter.Double.Arithmetic

/-! The order of literals kind by kind, in arithmetic of fixed width. Integers of both signs and
doubles are compared without turning one into the other where that would round it. -/

namespace EventFilter

/-- A negative integer is less than all unsigned ones. -/
def orderSigned (n : Int64) (m : UInt64) : Ordering :=
  if 0 ≤ n then compare n.toUInt64.toNat m.toNat else .lt

namespace Double

/-- The number `2 ^ 64`, which all integers of 64 bits are less than. -/
def aboveIntegers : Double := ⟨0x43f0000000000000⟩

/-- The number `-2 ^ 63`, which no integer of 64 bits is less than. -/
def leastInteger : Double := ⟨0xc3e0000000000000⟩

/-- An integer of 64 bits against a double. A double beyond all these integers decides alone; of
any other, the whole part comes first and then the rest. -/
def orderOfInteger? (n : Int) (x : Double) : Option Ordering :=
  if x.isNaN then none
  else if (x.order? aboveIntegers).any (·.isGE) then some .lt
  else if x.order? leastInteger = some .lt then some .gt
  else
    match compare n x.trunc.toInt with
    | .eq => order? ⟨0⟩ (x.sub x.trunc)
    | unequal => some unequal

end Double

namespace Data

/-- The order of two literals, by their kinds. -/
def orderByKind? : Data → Data → Option Ordering
  | int64 m, int64 n => some (compare m.toInt n.toInt)
  | uint64 m, uint64 n => some (compare m.toNat n.toNat)
  | int64 m, uint64 n => some (orderSigned m n)
  | uint64 m, int64 n => some (orderSigned n m).swap
  | double x, double y => x.order? y
  | double x, int64 n => (Double.orderOfInteger? n.toInt x).map .swap
  | double x, uint64 n => (Double.orderOfInteger? n.toNat x).map .swap
  | int64 m, double y => Double.orderOfInteger? m.toInt y
  | uint64 m, double y => Double.orderOfInteger? m.toNat y
  | duration m, duration n => some (compare m.toInt n.toInt)
  | time m, time n => some (compare m.toInt n.toInt)
  | string s, string t => some (compare s t)
  | _, _ => none

end Data

end EventFilter
