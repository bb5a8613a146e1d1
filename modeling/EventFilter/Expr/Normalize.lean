import EventFilter.Expr.Basic

/-! Putting expressions into normal form: no negations, literals on the right, no group within
a group of the same kind, no repeated siblings. -/

namespace EventFilter.Expr

mutual

/-- Drops the predicates on metadata, and what is left empty without them. -/
def prune : Expr → Expr
  | empty => empty
  | group c children => join c (pruneAll children)
  | negation child =>
    match child.prune with
    | empty => empty
    | e => negation e
  | predicate p => if p.mentionsMetadata then empty else predicate p

def pruneAll : List Expr → List Expr
  | [] => []
  | e :: rest =>
    match e.prune with
    | empty => pruneAll rest
    | e => e :: pruneAll rest

end

/-- The children that an expression has in a group of the kind. -/
def splice (c : Connective) : Expr → List Expr
  | group d children => if d = c then children else [group d children]
  | e => [e]

mutual

/-- Moves the children of groups within groups of the same kind outwards. -/
def hoist : Expr → Expr
  | empty => empty
  | group c children => join c (hoistAll c children)
  | negation child => negation child.hoist
  | predicate p => predicate p

def hoistAll (c : Connective) : List Expr → List Expr
  | [] => []
  | e :: rest => splice c e.hoist ++ hoistAll c rest

end

mutual

/-- Pushes negations to the leaves; with `negate`, of the negated expression. -/
def denegate (negate : Bool) : Expr → Expr
  | empty => empty
  | group c children => group (c.under negate) (denegateAll negate children)
  | negation child => child.denegate !negate
  | predicate p => predicate (if negate then p.negated else p)

def denegateAll (negate : Bool) : List Expr → List Expr
  | [] => []
  | e :: rest => e.denegate negate :: denegateAll negate rest

end

mutual

/-- Moves the lone literal of every predicate to the right. -/
def align : Expr → Expr
  | empty => empty
  | group c children => group c (alignAll children)
  | negation child => negation child.align
  | predicate p => predicate p.aligned

def alignAll : List Expr → List Expr
  | [] => []
  | e :: rest => e.align :: alignAll rest

end

mutual

/-- Drops repeated siblings, keeping the first of each. -/
def deduplicate : Expr → Expr
  | empty => empty
  | group c children => join c (deduplicateAll children).eraseDups
  | negation child => negation child.deduplicate
  | predicate p => predicate p

def deduplicateAll : List Expr → List Expr
  | [] => []
  | e :: rest => e.deduplicate :: deduplicateAll rest

end

def tidy (e : Expr) : Expr := e.hoist.deduplicate

/-- Repeats `tidy` until nothing changes, at most `n` times. -/
def settle : Nat → Expr → Expr
  | 0, e => e
  | n + 1, e => if e.tidy = e then e else settle n e.tidy

/-- The normal form. After the first round every change takes a node away, so that the size bounds
the number of rounds. -/
def normalize (e : Expr) : Expr :=
  let first := (e.hoist.denegate false).align.deduplicate
  settle first.size first

/-- The normal form, optionally of the expression without its predicates on metadata. -/
def normalizeWith (pruneMetadata : Bool) (e : Expr) : Expr :=
  normalize (if pruneMetadata then e.prune else e)

/-- The union of two ascending lists. What stands at the head of both is taken once. -/
def mergePredicates : List Predicate → List Predicate → List Predicate
  | [], qs => qs
  | ps, [] => ps
  | p :: ps, q :: qs =>
    match compare p q with
    | .lt => p :: mergePredicates ps (q :: qs)
    | .gt => q :: mergePredicates (p :: ps) qs
    | .eq => p :: mergePredicates ps qs
termination_by ps qs => ps.length + qs.length

mutual

/-- The predicates of an expression in ascending order, each once. -/
def predicates : Expr → List Predicate
  | empty => []
  | group _ children => predicatesWith [] children
  | negation child => child.predicates
  | predicate p => [p]

/-- Merges the predicates of one expression after the other into those found so far. -/
def predicatesWith (found : List Predicate) : List Expr → List Predicate
  | [] => found
  | e :: rest => predicatesWith (mergePredicates found e.predicates) rest

end

end EventFilter.Expr
