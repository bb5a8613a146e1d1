import EventFilter.Order.Key
import EventFilter.Wire.Decode

/-! Offsets: paths of field positions from the root of a schema to a field. They are ordered
lexicographically, so that a parent comes before its children. -/

namespace EventFilter

abbrev Offset := List Nat

namespace Offset

def child (o : Offset) (i : Nat) : Offset := o ++ [i]

def text (o : Offset) : String := "[" ++ ",".intercalate (o.map toString) ++ "]"

def orderKey (o : Offset) : OrderKey := .tuple (o.map fun (i : Nat) => .int i)

def compare (a b : Offset) : Ordering := a.orderKey.compare b.orderKey

/-- Whether `a` comes before `b`. -/
def before (a b : Offset) : Bool := a.compare b = .lt

def toWire (o : Offset) : Wire := .array (o.map fun (i : Nat) => .integer i)

def ofWire (w : Wire) : Except WireError Offset := w.asList (Wire.asNatural 64)

theorem orderKey_injective {a b : Offset} (h : orderKey a = orderKey b) : a = b := by
  simp only [orderKey, OrderKey.tuple.injEq] at h
  exact OrderKey.map_injective (fun x y hxy => Int.ofNat.inj (OrderKey.int.inj hxy)) h

theorem before_iff {a b : Offset} : a.before b ↔ a.orderKey.compare b.orderKey = .lt :=
  decide_eq_true_iff

theorem before_trans {a b c : Offset} (hab : a.before b) (hbc : b.before c) : a.before c := by
  simp only [before_iff] at *
  exact OrderKey.compare_lt_trans _ _ _ hab hbc

theorem not_before_self (a : Offset) : ¬ a.before a := by
  simp [before_iff, (OrderKey.compare_eq_iff a.orderKey a.orderKey).2 rfl]

theorem before_of_not_before {a b : Offset} (h : ¬ a.before b) (hne : a ≠ b) : b.before a := by
  simp only [before_iff] at *
  rw [OrderKey.compare_swap]
  cases hab : a.orderKey.compare b.orderKey with
  | lt => exact absurd hab h
  | eq => exact absurd (orderKey_injective ((OrderKey.compare_eq_iff _ _).1 hab)) hne
  | gt => rfl

end Offset

end EventFilter
