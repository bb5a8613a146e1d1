import EventFilter.Expr.Basic

/-! Building expressions clause by clause. -/

namespace EventFilter

/-- What a builder makes of its clauses: their group, or the only one of them. -/
inductive Combination where
  | single
  | group (c : Connective)
  deriving DecidableEq

structure Builder where
  combination : Combination := .single
  clauses : List Expr := []

inductive BuilderError where
  | noClause
  | severalClauses
  deriving DecidableEq

def BuilderError.message : BuilderError → String
  | noClause => "ExprBuilder requires at least one clause"
  | severalClauses => "ExprBuilder::leaf must contain exactly one clause"

namespace Builder

def add (b : Builder) (e : Expr) : Builder := { b with clauses := b.clauses ++ [e] }

def compare (b : Builder) (lhs : Operand) (op : Operator) (rhs : Operand) : Builder :=
  b.add (.predicate ⟨lhs, op, rhs⟩)

/-- A group without clauses has no meaning, nor has a single clause made of several. -/
def build (b : Builder) : Except BuilderError Expr :=
  match b.combination, b.clauses with
  | _, [] => .error .noClause
  | .single, [e] => .ok e
  | .single, _ => .error .severalClauses
  | .group c, clauses => .ok (.join c clauses)

/-- Adds a group of clauses. -/
def addGroup (b : Builder) (c : Connective) (clauses : List Expr) : Except BuilderError Builder :=
  b.add <$> build { combination := .group c, clauses }

/-- Adds the negation of a conjunction of clauses. -/
def addNegation (b : Builder) (clauses : List Expr) : Except BuilderError Builder :=
  (b.add ∘ .negation) <$> build { combination := .group .all, clauses }

end Builder

end EventFilter
