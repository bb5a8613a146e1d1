/-! The ten relations between an operand on the left and one on the right.
Flipping an operator exchanges its sides, negating it complements its answer. -/

namespace EventFilter

inductive Operator where
  | equal | notEqual
  | less | lessEqual | greater | greaterEqual
  | isIn | notIn
  | ni | notNi
  deriving DecidableEq

namespace Operator

/-- All operators, in their declared order. -/
def all : List Operator :=
  [equal, notEqual, less, lessEqual, greater, greaterEqual, isIn, notIn, ni, notNi]

def rank : Operator → Nat
  | equal => 0
  | notEqual => 1
  | less => 2
  | lessEqual => 3
  | greater => 4
  | greaterEqual => 5
  | isIn => 6
  | notIn => 7
  | ni => 8
  | notNi => 9

def symbol : Operator → String
  | equal => "=="
  | notEqual => "!="
  | less => "<"
  | lessEqual => "<="
  | greater => ">"
  | greaterEqual => ">="
  | isIn => "in"
  | notIn => "!in"
  | ni => "ni"
  | notNi => "!ni"

/-- The name under which the wire format knows the operator. -/
def wireName : Operator → String
  | equal => "Equal"
  | notEqual => "NotEqual"
  | less => "Less"
  | lessEqual => "LessEqual"
  | greater => "Greater"
  | greaterEqual => "GreaterEqual"
  | isIn => "In"
  | notIn => "NotIn"
  | ni => "Ni"
  | notNi => "NotNi"

/-- The operator that relates the exchanged operands. -/
def flip : Operator → Operator
  | equal => equal
  | notEqual => notEqual
  | less => greater
  | lessEqual => greaterEqual
  | greater => less
  | greaterEqual => lessEqual
  | isIn => ni
  | notIn => notNi
  | ni => isIn
  | notNi => notIn

def negate : Operator → Operator
  | equal => notEqual
  | notEqual => equal
  | less => greaterEqual
  | lessEqual => greater
  | greater => lessEqual
  | greaterEqual => less
  | isIn => notIn
  | notIn => isIn
  | ni => notNi
  | notNi => ni

/-- The complements `!=`, `!in` and `!ni`. An ordering is never one of them. -/
def isNegated : Operator → Bool
  | notEqual | notIn | notNi => true
  | _ => false

def isOrdering : Operator → Bool
  | less | lessEqual | greater | greaterEqual => true
  | _ => false

@[simp] theorem flip_flip (op : Operator) : op.flip.flip = op := by cases op <;> rfl

@[simp] theorem negate_negate (op : Operator) : op.negate.negate = op := by cases op <;> rfl

theorem flip_negate (op : Operator) : op.negate.flip = op.flip.negate := by cases op <;> rfl

@[simp] theorem isOrdering_flip (op : Operator) : op.flip.isOrdering = op.isOrdering := by
  cases op <;> rfl

@[simp] theorem isOrdering_negate (op : Operator) : op.negate.isOrdering = op.isOrdering := by
  cases op <;> rfl

theorem rank_injective {a b : Operator} (h : a.rank = b.rank) : a = b := by
  cases a <;> cases b <;> first | rfl | (simp [rank] at h)

end Operator

end EventFilter
