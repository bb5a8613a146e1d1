import EventFilter.DataType.Compatible
import EventFilter.Expr.Basic

/-! Checks that need no schema: whether each predicate suits the kind of its extractor. -/

namespace EventFilter

inductive ValidationError where
  | emptyExpression
  | metadataOperand (key : MetaKey) (op : Operator) (d : Data)
  | importTime (op : Operator) (d : Data)
  | typeMismatch (t : DataType) (op : Operator) (d : Data)
  | extractorPair (x : Extractor) (op : Operator) (y : Extractor)

def ValidationError.message : ValidationError → String
  | emptyExpression => "empty expression is invalid"
  | metadataOperand key op d =>
    key.text ++ " requires a string or pattern operand: " ++
      key.text ++ " " ++ op.symbol ++ " " ++ d.text
  | importTime op d =>
    "#import_time only supports ordering comparisons against a time: #import_time " ++
      op.symbol ++ " " ++ d.text
  | typeMismatch t op d =>
    "type extractor type check failure: :" ++ t.text ++ " " ++ op.symbol ++ " " ++ d.text
  | extractorPair x op y =>
    "predicate compares two extractors: " ++ x.text ++ " " ++ op.symbol ++ " " ++ y.text

/-- Names wait for a schema; the metadata and concrete types can be checked without one. -/
def Extractor.validate (x : Extractor) (op : Operator) (d : Data) : Except ValidationError Unit :=
  match x with
  | metadata .importTime =>
    match d with
    | .time _ => if op.isOrdering then .ok () else .error (.importTime op d)
    | _ => .error (.importTime op d)
  | metadata key =>
    match d with
    | .string _ | .pattern _ => .ok ()
    | _ => .error (.metadataOperand key op d)
  | type t =>
    if t.isReference || t.compatible op d then .ok () else .error (.typeMismatch t op d)
  | field _ => .ok ()
  | data _ _ => .ok ()

def Predicate.validate (p : Predicate) : Except ValidationError Unit :=
  match p.form with
  | .constant _ _ _ => .ok ()
  | .test x op d => x.validate op d
  | .pair x y => .error (.extractorPair x p.op y)

namespace Expr

mutual

/-- The first error from left to right. -/
def validate : Expr → Except ValidationError Unit
  | empty => .error .emptyExpression
  | group _ children => validateAll children
  | negation child => child.validate
  | predicate p => p.validate

def validateAll : List Expr → Except ValidationError Unit
  | [] => .ok ()
  | e :: rest =>
    match e.validate with
    | .ok () => validateAll rest
    | .error err => .error err

end

end Expr

end EventFilter
