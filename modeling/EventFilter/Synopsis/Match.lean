import EventFilter.Expr.Resolve
import EventFilter.Expr.SchemaMatch
import EventFilter.Synopsis.Partition

/-! Whether a partition can hold rows that satisfy an expression, by its summary. -/

namespace EventFilter

/-- What the import times of a partition say; unknown counts as true. -/
def Partition.importTimeMightMatch (p : Partition) (op : Operator) (d : Data) : Bool :=
  match p.importTime with
  | some (low, high) => ((⟨.scalar .time, low, high⟩ : TimeSynopsis).lookup op d).getD true
  | none => true

def Predicate.mightMatchSynopses (part : Partition) (p : Predicate) : Bool :=
  match p.form with
  | .test (.metadata .importTime) op d => part.importTimeMightMatch op d
  | .test (.metadata _) _ _ => p.mightMatchSchema part.schema
  | .test (.data schema offset) op d =>
    if schema = part.schema then
      ((part.synopses.find? offset).bind (·.lookup op d)).getD true
    else true
  | _ => true

namespace Expr

/-- False only if the summary shows that no row satisfies the resolved expression. -/
def mightMatchSynopses (part : Partition) (e : Expr) : Bool :=
  e.mayHold (·.mightMatchSynopses part) false

/-- False only if schema and summary show that no row satisfies the expression, which is resolved
here. -/
def mightMatch (part : Partition) (e : Expr) : Except ResolveError Bool :=
  if e.mightMatchSchema part.schema then (·.mightMatchSynopses part) <$> e.resolve part.schema
  else .ok false

def mightMatchEvents (part : Partition) (e : Expr) : List LogEvent :=
  if e.mightMatchSchema part.schema then e.resolveEvents part.schema else []

end Expr

end EventFilter
