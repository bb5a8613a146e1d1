import EventFilter.Data.Basic
import EventFilter.DataType.Basic
import EventFilter.Operator

/-! Which literals a column of a type may meaningfully be compared with, and which types have the
same shape. -/

namespace EventFilter.DataType

mutual

/-- Equality of shape, whatever the names and attributes at any depth. -/
def congruent : DataType → DataType → Bool
  | scalar k _, scalar m _ => k = m
  | list t _, list u _ => congruent t u
  | record fs _, record gs _ => congruentFields fs gs
  | _, _ => false

def congruentFields : List Field → List Field → Bool
  | [], [] => true
  | (_, t) :: fs, (_, u) :: gs => congruent t u && congruentFields fs gs
  | _, _ => false

end

def scalarEquality : Scalar → Data → Bool
  | .bool, .bool _ => true
  | .int64, d | .uint64, d | .double, d =>
    match d with
    | .int64 _ | .uint64 _ | .double _ => true
    | _ => false
  | .duration, .duration _ => true
  | .time, .time _ => true
  | .string, .string _ | .string, .pattern _ => true
  | .blob, .blob _ => true
  | _, _ => false

mutual

/-- Whether a value of the type may be equal to the literal. Null is admitted by every type. -/
def equality : DataType → Data → Bool
  | _, .null => true
  | list t _, .list items => equalityAll t items
  | scalar k _, d => scalarEquality k d
  | _, _ => false

def equalityAll : DataType → List Data → Bool
  | _, [] => true
  | t, d :: rest => equality t d && equalityAll t rest

end

def ordering : DataType → Data → Bool
  | scalar .int64 _, d | scalar .uint64 _, d | scalar .double _, d =>
    match d with
    | .int64 _ | .uint64 _ | .double _ => true
    | _ => false
  | scalar .duration _, .duration _ => true
  | scalar .time _, .time _ => true
  | scalar .string _, .string _ => true
  | _, _ => false

/-- Whether a value of the type may be an element or a part of the literal. -/
def membership : DataType → Data → Bool
  | t, .list items => items.all (equality t)
  | scalar .string _, .string _ => true
  | _, _ => false

/-- Whether the literal may be an element or a part of a value of the type. -/
def inclusion : DataType → Data → Bool
  | list t _, d => equality t d
  | scalar .string _, .string _ | scalar .string _, .pattern _ => true
  | _, _ => false

def compatible (t : DataType) (op : Operator) (d : Data) : Bool :=
  match op with
  | .equal | .notEqual => equality t d
  | .less | .lessEqual | .greater | .greaterEqual => ordering t d
  | .isIn | .notIn => membership t d
  | .ni | .notNi => inclusion t d

theorem compatible_negate (t : DataType) (op : Operator) (d : Data) :
    compatible t op.negate d = compatible t op d := by cases op <;> rfl

end EventFilter.DataType
