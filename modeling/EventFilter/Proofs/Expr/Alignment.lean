import EventFilter.Proofs.Expr.Duality
import EventFilter.Proofs.Expr.Resolution

/-! Alignment against the checks and the binding of expressions. Moving a lone literal to the right
leaves the form of a predicate alone; a validity check, a resolution or a verdict that looks at
forms does not see it. -/

namespace EventFilter

namespace Predicate

theorem validate_aligned (p : Predicate) : p.aligned.validate = p.validate := by
  obtain ⟨l, op, r⟩ := p
  cases l <;> cases r <;> rfl

theorem aligned_eq_self_of_pair {p : Predicate} {x y : Extractor} (h : p.form = .pair x y) :
    p.aligned = p := by
  obtain ⟨l, op, r⟩ := p
  cases l <;> cases r <;> simp [form] at h
  rfl

theorem align_onLeaf (s : Schema) (op : Operator) (d : Data) (leaf : Leaf) :
    (onLeaf s op d leaf).align = onLeaf s op d leaf := rfl

end Predicate

namespace Expr

variable {c : Connective} {s : Schema} {e : Expr} {es : List Expr}

theorem leaves_align (e : Expr) : e.align.leaves = e.leaves.map Predicate.aligned := by
  induction e with
  | empty => rfl
  | group c children ih =>
    simp only [align, leaves, alignAll_eq_map, leavesAll_eq_flatMap, List.flatMap_map,
      List.map_flatMap]
    rw [List.flatMap_def, List.map_congr_left ih, ← List.flatMap_def]
  | negation child ih => exact ih
  | predicate p => rfl

theorem align_join (c : Connective) (es : List Expr) :
    (join c es).align = join c (es.map align) := by
  match es with
  | [] => rfl
  | [e] => rfl
  | e :: f :: rest => simp [join, align, alignAll_eq_map]

theorem isEmpty_align (e : Expr) : e.align.isEmpty = e.isEmpty := by
  cases e <;> rfl

/-! ### Validity -/

theorem validateAll_align (h : ∀ e ∈ es, e.align.validate = e.validate) :
    validateAll (es.map align) = validateAll es := by
  induction es with
  | nil => rfl
  | cons e rest ih =>
    have he := h e (by simp)
    have hrest := ih fun f hf => h f (List.mem_cons_of_mem _ hf)
    simp only [List.map_cons, validateAll, he, hrest]

theorem validate_align (e : Expr) : e.align.validate = e.validate := by
  induction e with
  | empty => rfl
  | group c children ih =>
    simp only [align, alignAll_eq_map, validate]
    exact validateAll_align ih
  | negation child ih => exact ih
  | predicate p => exact p.validate_aligned

/-! ### Resolution -/

/-- The columns that an extractor stands for are compared with the literal on the right, whichever
side it was written on; what stays as it is stays with its operands in their order. -/
theorem resolve_aligned (s : Schema) (p : Predicate) :
    p.aligned.resolve s = (p.resolve s).map align := by
  have hform := p.form_aligned
  cases hp : p.form with
  | constant a op b =>
    rw [hp] at hform
    simp [Predicate.resolve, hp, hform, Except.map, align]
  | pair x y => simp [Predicate.aligned_eq_self_of_pair hp, Predicate.resolve, hp, Except.map]
  | test x op d =>
    rw [hp] at hform
    cases x with
    | metadata key => simp [Predicate.resolve, hp, hform, Except.map, align]
    | data bound o =>
      by_cases hbound : bound = s
      · simp [Predicate.resolve, hp, hform, hbound, Except.map, align]
      · simp [Predicate.resolve, hp, hform, hbound, Except.map]
    | field name | type t =>
      simp [Predicate.resolve, hp, hform, Except.map, align_join, Function.comp_def,
        Predicate.align_onLeaf]

theorem resolveAll_align (h : ∀ e ∈ es, e.align.resolve s = (e.resolve s).map align) :
    resolveAll s (es.map align) = (resolveAll s es).map (List.map align) := by
  induction es with
  | nil => rfl
  | cons e rest ih =>
    have he := h e (by simp)
    have hrest := ih fun f hf => h f (List.mem_cons_of_mem _ hf)
    simp only [List.map_cons, resolveAll, he, hrest]
    cases e.resolve s with
    | error err => rfl
    | ok r =>
      cases resolveAll s rest with
      | error err => rfl
      | ok rs =>
        simp only [Except.map, isEmpty_align]
        split <;> rfl

theorem resolve_align (s : Schema) (e : Expr) :
    e.align.resolve s = (e.resolve s).map align := by
  induction e with
  | empty => rfl
  | group c children ih =>
    simp only [align, alignAll_eq_map, resolve, resolveAll_align ih]
    cases resolveAll s children with
    | error err => rfl
    | ok rs => simp only [Except.map, align_join]
  | negation child ih =>
    simp only [align, resolve, ih]
    cases child.resolve s with
    | error err => rfl
    | ok r => cases r <;> rfl
  | predicate p => exact resolve_aligned s p

theorem resolveEvents_align (s : Schema) (e : Expr) :
    e.align.resolveEvents s = e.resolveEvents s := by
  have hok (p : Predicate) : (p.aligned.resolve s).isOk = (p.resolve s).isOk := by
    rw [resolve_aligned]
    cases p.resolve s <;> rfl
  simp only [resolveEvents, leaves_align, List.takeWhile_map, List.filterMap_map,
    Function.comp_def, hok]
  refine congrArg (List.filterMap · _) (funext fun p => ?_)
  rw [p.form_aligned, resolve_aligned]
  cases p.resolve s with
  | error err => rfl
  | ok r => cases p.form <;> cases r <;> rfl

/-! ### Verdicts -/

variable {may : Predicate → Bool}

/-- Under a negation the operator is negated and flipped, in one order or the other. -/
theorem mayHold_align (hmay : ∀ p, may p.aligned = may p) (negate : Bool) (e : Expr) :
    e.align.mayHold may negate = e.mayHold may negate := by
  induction e generalizing negate with
  | empty => rfl
  | group c children ih =>
    have hchildren : (children.map align).map (·.mayHold may negate) =
        children.map (·.mayHold may negate) := by
      rw [List.map_map]
      exact List.map_congr_left fun e he => ih e he negate
    have hall := congrArg (List.all · id) hchildren
    have hany := congrArg (List.any · id) hchildren
    simp only [List.all_map, List.any_map, Function.id_comp] at hall hany
    simp only [align, alignAll_eq_map, mayHold, allMayHold_eq_all, anyMayHold_eq_any, List.all_map,
      List.any_map, hall, hany]
  | negation child ih => exact ih (!negate)
  | predicate p =>
    cases negate with
    | false => exact hmay p
    | true =>
      have hnegated : p.aligned.negated = p.negated.aligned := p.aligned_negated.symm
      simp only [align, mayHold, if_true, hnegated, hmay]

end Expr

end EventFilter
