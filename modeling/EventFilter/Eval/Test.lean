import EventFilter.Eval.Truth
import EventFilter.Table.Slice

/-! Comparing cells with a literal. A literal of the column's own kind is compared as the column
stores its values, and there doubles follow the total order of bit patterns. -/

namespace EventFilter

/-- Which orders satisfy an operator that compares two values of one kind. -/
def Operator.accepts? : Operator → Option (Ordering → Bool)
  | equal => some (· = .eq)
  | notEqual => some (· ≠ .eq)
  | less => some (· = .lt)
  | lessEqual => some (· ≠ .gt)
  | greater => some (· = .gt)
  | greaterEqual => some (· ≠ .lt)
  | isIn | notIn | ni | notNi => none

namespace Cell

/-- The stored order of a cell and a literal of its kind. -/
def storedOrder? : Cell → Data → Option Ordering
  | bool a, .bool b => some (compare a.toNat b.toNat)
  | int64 a, .int64 b => some (compare a.toInt b.toInt)
  | uint64 a, .uint64 b => some (compare a.toNat b.toNat)
  | double x, .double y => some (compare x.position y.position)
  | duration a, .duration b => some (compare a.toInt b.toInt)
  | time a, .time b => some (compare a.toInt b.toInt)
  | string s, .string u => some (compare s u)
  | _, _ => none

/-- Null is equal to null cells alone. Every other comparison with a null cell is unknown. -/
def test (op : Operator) (d : Data) (c : Cell) : Truth :=
  match d, op with
  | .null, .equal => some c.isNull
  | .null, .notEqual => some !c.isNull
  | d, op =>
    match c.storedOrder? d, op.accepts? with
    | some o, some accepts => some (accepts o)
    | _, _ => c.value?.map (·.holds op d)

end Cell

def Column.test (op : Operator) (d : Data) (c : Column) : List Truth := c.cells.map (·.test op d)

end EventFilter
