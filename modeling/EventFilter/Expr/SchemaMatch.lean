import EventFilter.Data.Compare
import EventFilter.Expr.MayHold

/-! Whether a schema can have rows that satisfy an expression, by its name and fingerprint
alone. -/

namespace EventFilter

def Predicate.mightMatchSchema (s : Schema) (p : Predicate) : Bool :=
  match p.form with
  | .test (.metadata .schema) op d => (Data.string s.name).holds op d
  | .test (.metadata .schemaId) op d => (Data.string s.fingerprint).holds op d
  | _ => true

/-- False only if no row of the schema can satisfy the expression. -/
def Expr.mightMatchSchema (s : Schema) (e : Expr) : Bool :=
  e.mayHold (·.mightMatchSchema s) false

end EventFilter
