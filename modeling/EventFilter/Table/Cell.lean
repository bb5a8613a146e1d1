import EventFilter.Data.Compare
import EventFilter.Table.Layout

/-! Cells: the values of columns. A record keeps the cells of its fields also where it is null
itself; they are hidden then, as everything below them is. -/

namespace EventFilter

inductive Cell where
  | null
  | bool (b : Bool)
  | int64 (n : Int64)
  | uint64 (n : UInt64)
  | double (x : Double)
  | duration (ns : Int64)
  | time (ns : Int64)
  | string (s : String)
  | blob (bytes : List UInt8)
  | list (items : List Cell)
  | record (present : Bool) (fields : List Cell)

mutual

/-- The cell of a missing value. The fields of a missing record are missing too. -/
def DataType.missing : DataType → Cell
  | .record fields _ => .record false (missingFields fields)
  | _ => .null

def missingFields : List Field → List Cell
  | [] => []
  | (_, t) :: rest => t.missing :: missingFields rest

end

namespace Cell

def isNull : Cell → Bool
  | null => true
  | record present _ => !present
  | _ => false

/-- The cell under a null record. -/
def hidden : Cell → Cell
  | record _ fields => record false fields
  | _ => null

/-- The cell of a field, which is null where the record is. -/
def field? (i : Nat) : Cell → Option Cell
  | record present fields => fields[i]?.map fun c => if present then c else c.hidden
  | _ => none

mutual

/-- The value of a cell as a literal. Null cells have none, nor have records. In a list, null
stands for the elements without a value. -/
def value? : Cell → Option Data
  | null => none
  | bool b => some (.bool b)
  | int64 n => some (.int64 n)
  | uint64 n => some (.uint64 n)
  | double x => some (.double x)
  | duration ns => some (.duration ns)
  | time ns => some (.time ns)
  | string s => some (.string s)
  | blob bytes => some (.blob bytes)
  | list items => some (.list (itemValues items))
  | record _ _ => none

def itemValues : List Cell → List Data
  | [] => []
  | c :: rest => c.value?.getD .null :: itemValues rest

end

mutual

/-- Whether a column of the layout can hold the cell. -/
def fits : Layout → Cell → Bool
  | .struct fields, record _ cells => fitsFields fields cells
  | .struct _, _ => false
  | _, null => true
  | .boolean, bool _ => true
  | .int64, int64 _ => true
  | .uint64, uint64 _ => true
  | .float64, double _ => true
  | .duration, duration _ => true
  | .timestamp, time _ => true
  | .utf8, string _ => true
  | .binary, blob _ => true
  | .list _ item _, list items => items.all (fits item)
  | _, _ => false

def fitsFields : List (String × Layout × Bool) → List Cell → Bool
  | [], [] => true
  | (_, l, _) :: ls, c :: cs => fits l c && fitsFields ls cs
  | _, _ => false

end

end Cell

end EventFilter
