import EventFilter.Expr.Basic

/-! Verdicts on expressions from verdicts on their predicates: whether an expression may hold, when
it is known which predicates may. -/

namespace EventFilter.Expr

mutual

/-- Whether the expression, or with `negate` its negation, may hold. The empty expression never
does. -/
def mayHold (may : Predicate → Bool) (negate : Bool) : Expr → Bool
  | empty => false
  | group c children =>
    match c.under negate with
    | .all => allMayHold may negate children
    | .any => anyMayHold may negate children
  | negation child => child.mayHold may !negate
  | predicate p => may (if negate then p.negated else p)

def allMayHold (may : Predicate → Bool) (negate : Bool) : List Expr → Bool
  | [] => true
  | e :: rest => e.mayHold may negate && allMayHold may negate rest

def anyMayHold (may : Predicate → Bool) (negate : Bool) : List Expr → Bool
  | [] => false
  | e :: rest => e.mayHold may negate || anyMayHold may negate rest

end

end EventFilter.Expr
