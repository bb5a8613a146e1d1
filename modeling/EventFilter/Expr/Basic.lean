import EventFilter.Expr.Predicate

/-! Filter expressions: predicates under negation and the two connectives. -/

namespace EventFilter

inductive Connective where
  | all | any
  deriving DecidableEq

namespace Connective

def dual : Connective → Connective
  | all => any
  | any => all

/-- The dual under a negation. -/
def under (negate : Bool) (c : Connective) : Connective := if negate then c.dual else c

def rank : Connective → Nat
  | all => 0
  | any => 1

def separator : Connective → String
  | all => " && "
  | any => " || "

end Connective

inductive Expr where
  | empty
  | group (c : Connective) (children : List Expr)
  | negation (child : Expr)
  | predicate (p : Predicate)

namespace Expr

def isEmpty : Expr → Bool
  | empty => true
  | _ => false

def predicate? : Expr → Option Predicate
  | predicate p => some p
  | _ => none

/-- The group of the children. No children make the empty expression, and one stands for
itself. -/
def join (c : Connective) : List Expr → Expr
  | [] => empty
  | [e] => e
  | es => group c es

mutual

def text : Expr → String
  | empty => "<none>"
  | group c children => "(" ++ c.separator.intercalate (texts children) ++ ")"
  | negation child => "! " ++ child.text
  | predicate p => p.text

def texts : List Expr → List String
  | [] => []
  | e :: rest => e.text :: texts rest

end

mutual

/-- The predicates at the leaves, from left to right. -/
def leaves : Expr → List Predicate
  | empty => []
  | group _ children => leavesAll children
  | negation child => child.leaves
  | predicate p => [p]

def leavesAll : List Expr → List Predicate
  | [] => []
  | e :: rest => e.leaves ++ leavesAll rest

end

mutual

/-- The number of nodes. -/
def size : Expr → Nat
  | empty => 1
  | group _ children => sizeAll children + 1
  | negation child => child.size + 1
  | predicate _ => 1

def sizeAll : List Expr → Nat
  | [] => 0
  | e :: rest => e.size + sizeAll rest

end

mutual

/-- Whether two expressions are the same. -/
def same : Expr → Expr → Bool
  | empty, empty => true
  | group c es, group d fs => c == d && sameAll es fs
  | negation a, negation b => same a b
  | predicate p, predicate q => p == q
  | _, _ => false

def sameAll : List Expr → List Expr → Bool
  | [], [] => true
  | a :: as, b :: bs => same a b && sameAll as bs
  | _, _ => false

end

mutual

theorem same_iff : (a b : Expr) → (a.same b ↔ a = b)
  | .empty, b => by cases b <;> simp [same]
  | .group c es, b => by
    cases b <;> simp [same]
    rename_i fs
    rw [sameAll_iff es fs]
    exact fun _ => Iff.rfl
  | .negation e, b => by
    cases b <;> simp [same]
    rename_i f
    exact same_iff e f
  | .predicate p, b => by cases b <;> simp [same]

theorem sameAll_iff : (xs ys : List Expr) → (sameAll xs ys ↔ xs = ys)
  | [], ys => by cases ys <;> simp [sameAll]
  | x :: xs, ys => by
    cases ys with
    | nil => simp [sameAll]
    | cons y ys => simp [sameAll, same_iff x y, sameAll_iff xs ys]

end

instance : DecidableEq Expr := fun a b => decidable_of_iff (a.same b) (same_iff a b)

end Expr

end EventFilter
