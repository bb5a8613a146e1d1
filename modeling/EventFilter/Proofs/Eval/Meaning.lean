import EventFilter.Proofs.Eval.Kleene
import EventFilter.Proofs.Expr.Structure

/-! The truth of an expression when its predicates have given truths. Evaluation over rows is this
meaning taken in each row. -/

namespace EventFilter.Expr

mutual

/-- The truth of an expression under a valuation of its predicates. -/
def meaning (v : Predicate → Truth) : Expr → Truth
  | empty => some false
  | group c children => c.fold (meanings v children)
  | negation child => (child.meaning v).not
  | predicate p => v p

def meanings (v : Predicate → Truth) : List Expr → List Truth
  | [] => []
  | e :: rest => e.meaning v :: meanings v rest

end

section

variable {v w : Predicate → Truth} {c : Connective} {e : Expr} {es fs : List Expr}

theorem meanings_eq_map (v : Predicate → Truth) (es : List Expr) :
    meanings v es = es.map (·.meaning v) := by
  induction es with
  | nil => rfl
  | cons e rest ih => simp [meanings, ih]

@[simp] theorem meaning_empty : empty.meaning v = some false := rfl

@[simp] theorem meaning_predicate (p : Predicate) : (predicate p).meaning v = v p := rfl

@[simp] theorem meaning_negation : (negation e).meaning v = (e.meaning v).not := rfl

@[simp] theorem meaning_group : (group c es).meaning v = c.fold (es.map (·.meaning v)) := by
  simp [meaning, meanings_eq_map]

/-- Joining keeps the meaning of a group, unless there is nothing to join. -/
theorem meaning_join (h : es ≠ []) : (join c es).meaning v = c.fold (es.map (·.meaning v)) := by
  match es with
  | [] => exact absurd rfl h
  | [e] => simp [join]
  | e :: f :: rest => simp [join]

end

end EventFilter.Expr
