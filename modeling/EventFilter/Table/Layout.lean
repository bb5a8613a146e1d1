import EventFilter.DataType.Basic
import EventFilter.Text.Quoted

/-! Layouts: how the cells of a column are stored. Every data type has one; some layouts belong to
no data type and only occur in batches that are refused. -/

namespace EventFilter

inductive ForeignLayout where
  | int32 | float32 | largeUtf8 | utf8View | timestampMicros | timestampUtc | durationMillis
  deriving DecidableEq

/-- Nested layouts name their fields and say whether these may be null. -/
inductive Layout where
  | null | boolean | int64 | uint64 | float64 | duration | timestamp | utf8 | binary
  | foreign (f : ForeignLayout)
  | list (name : String) (item : Layout) (nullable : Bool)
  | struct (fields : List (String × Layout × Bool))

def ForeignLayout.text : ForeignLayout → String
  | int32 => "Int32"
  | float32 => "Float32"
  | largeUtf8 => "LargeUtf8"
  | utf8View => "Utf8View"
  | timestampMicros => "Timestamp(Microsecond, None)"
  | timestampUtc => "Timestamp(Nanosecond, Some(\"UTC\"))"
  | durationMillis => "Duration(Millisecond)"

def Scalar.layout : Scalar → Layout
  | null => .null
  | bool => .boolean
  | int64 => .int64
  | uint64 => .uint64
  | double => .float64
  | duration => .duration
  | time => .timestamp
  | string => .utf8
  | blob => .binary

mutual

/-- All parts of the layout of a data type may be null. -/
def DataType.layout : DataType → Layout
  | .scalar k _ => k.layout
  | .list t _ => .list "item" t.layout true
  | .record fs _ => .struct (fieldLayouts fs)

def fieldLayouts : List Field → List (String × Layout × Bool)
  | [] => []
  | (name, t) :: rest => (name, t.layout, true) :: fieldLayouts rest

end

namespace Layout

/-- Whether columns of the layout hold nothing but nulls. -/
def isNull : Layout → Bool
  | null => true
  | _ => false

def fieldText (name layout : String) (nullable : Bool) : String :=
  "Field \x7b name: " ++ Text.quote name ++ ", data_type: " ++ layout ++ ", nullable: " ++
    (if nullable then "true" else "false") ++
    ", dict_id: 0, dict_is_ordered: false, metadata: \x7b\x7d \x7d"

mutual

def text : Layout → String
  | null => "Null"
  | boolean => "Boolean"
  | int64 => "Int64"
  | uint64 => "UInt64"
  | float64 => "Float64"
  | duration => "Duration(Nanosecond)"
  | timestamp => "Timestamp(Nanosecond, None)"
  | utf8 => "Utf8"
  | binary => "Binary"
  | foreign f => f.text
  | list name item nullable => "List(" ++ fieldText name item.text nullable ++ ")"
  | struct fields => "Struct([" ++ ", ".intercalate (fieldTexts fields) ++ "])"

def fieldTexts : List (String × Layout × Bool) → List String
  | [] => []
  | (name, l, nullable) :: rest => fieldText name l.text nullable :: fieldTexts rest

end

mutual

/-- Whether two layouts store cells alike. The names of nested fields make no difference. -/
def same : Layout → Layout → Bool
  | list _ a m, list _ b n => m = n && same a b
  | struct as, struct bs => sameFields as bs
  | foreign f, foreign g => f = g
  | null, null => true
  | boolean, boolean => true
  | int64, int64 => true
  | uint64, uint64 => true
  | float64, float64 => true
  | duration, duration => true
  | timestamp, timestamp => true
  | utf8, utf8 => true
  | binary, binary => true
  | _, _ => false

def sameFields : List (String × Layout × Bool) → List (String × Layout × Bool) → Bool
  | [], [] => true
  | (_, a, m) :: as, (_, b, n) :: bs => m = n && same a b && sameFields as bs
  | _, _ => false

end

end Layout

end EventFilter
