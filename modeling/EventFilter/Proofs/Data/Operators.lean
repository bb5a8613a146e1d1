import EventFilter.Data.Compare
import EventFilter.Eval.Test

/-! The algebra of the operators on literals. A flipped operator holds of the exchanged literals,
and a negated one is the complement, but for an ordering of what is not comparable: there neither
holds. -/

namespace EventFilter.Data

variable {a b : Data} {op : Operator} {o : Ordering} {accepts : Ordering → Bool}

/-! ### Orders -/

theorem equals_of_order?_eq_some (h : order? a b = some o) : a.equals b = decide (o = .eq) := by
  unfold equals
  split
  · simp [order?, units?] at h
  · simp [order?, units?] at h
  · simp [order?, units?] at h
  · simp [h]

theorem holds_of_order?_eq_some (h : order? a b = some o) (ha : op.accepts? = some accepts) :
    a.holds op b = accepts o := by
  have hequal := equals_of_order?_eq_some h
  cases op <;> simp only [Operator.accepts?, Option.some.injEq, reduceCtorEq] at ha <;> subst ha <;>
    cases o <;> simp [holds, h, hequal]

theorem holds_of_not_comparable (ho : op.isOrdering) (h : order? a b = none) :
    a.holds op b = false := by
  cases op <;> simp [Operator.isOrdering] at ho <;> simp [holds, h]

/-- Exchanged literals are in the reversed order. -/
theorem map_swap_order? (a b : Data) : (order? a b).map Ordering.swap = order? b a := by
  fun_cases order? a b with
  | case1 m n => simp [order?, Int.compare_swap]
  | case2 m n => simp [order?, Int.compare_swap]
  | case3 s u => exact congrArg some Std.OrientedCmp.eq_swap.symm
  | case4 => fun_cases order? b a <;> simp_all [Int.compare_swap]
  | case5 => fun_cases order? b a <;> simp_all

/-! ### Exchanged literals -/

mutual

theorem equals_comm (a b : Data) : a.equals b = b.equals a := by
  have hother : (match order? a b with
      | some o => decide (o = Ordering.eq)
      | none => decide (a = b)) =
      match order? b a with
      | some o => decide (o = Ordering.eq)
      | none => decide (b = a) := by
    rw [← map_swap_order? a b]
    cases order? a b with
    | none => simp [eq_comm]
    | some o => cases o <;> simp
  cases a <;> cases b
  case list.list xs ys => simpa only [equals] using equalsAll_comm xs ys
  case pattern.string p s => rfl
  case string.pattern s p => rfl
  case null.null => rfl
  all_goals
    simp only [equals]
    exact hother

theorem equalsAll_comm : (xs ys : List Data) → equalsAll xs ys = equalsAll ys xs
  | [], [] => rfl
  | [], _ :: _ => rfl
  | _ :: _, [] => rfl
  | x :: xs, y :: ys => by rw [equalsAll, equalsAll, equals_comm x y, equalsAll_comm xs ys]

end

theorem holds_flip (a b : Data) (op : Operator) : b.holds op.flip a = a.holds op b := by
  have horder := map_swap_order? a b
  cases op with
  | equal | notEqual => simp [holds, Operator.flip, equals_comm a b]
  | isIn | notIn | ni | notNi => rfl
  | less | lessEqual | greater | greaterEqual =>
    simp only [holds, Operator.flip, ← horder]
    cases order? a b with
    | none => simp
    | some o => cases o <;> simp

/-! ### Negated operators -/

theorem holds_negate (h : op.isOrdering → (order? a b).isSome) :
    a.holds op.negate b = !a.holds op b := by
  by_cases ho : op.isOrdering
  · obtain ⟨o, hab⟩ := Option.isSome_iff_exists.mp (h ho)
    cases op <;> simp [Operator.isOrdering] at ho <;> cases o <;> simp [holds, Operator.negate, hab]
  · cases op <;> simp_all [holds, Operator.negate, Operator.isOrdering]

theorem holds_negate_eq_false (h : a.holds op b = true) : a.holds op.negate b = false := by
  have hcomparable : op.isOrdering → (order? a b).isSome := by
    intro ho
    cases hab : order? a b with
    | some o => rfl
    | none => simp [holds_of_not_comparable ho hab] at h
  rw [holds_negate hcomparable, h]
  rfl

theorem holds_negate_ne_iff :
    a.holds op.negate b ≠ a.holds op b ↔ ¬ (op.isOrdering ∧ order? a b = none) := by
  constructor
  · rintro hne ⟨ho, hnone⟩
    have hnegate : op.negate.isOrdering := by rwa [Operator.isOrdering_negate]
    rw [holds_of_not_comparable hnegate hnone, holds_of_not_comparable ho hnone] at hne
    exact hne rfl
  · intro h
    have hcomparable (ho : op.isOrdering) : (order? a b).isSome :=
      Option.isSome_iff_ne_none.mpr fun hnone => h ⟨ho, hnone⟩
    simp [holds_negate hcomparable]

/-- A relation holds of two literals as the flipped one does of the exchanged ones. The negated one
gives the other answer, except for an ordering of literals that are not comparable, where neither
holds. -/
theorem operators_flip_and_negate (a b : Data) (op : Operator) :
    a.holds op b = b.holds op.flip a ∧
    (a.holds op.negate b ≠ a.holds op b ↔ ¬ (op.isOrdering ∧ order? a b = none)) ∧
    (op.isOrdering ∧ order? a b = none →
      a.holds op b = false ∧ a.holds op.negate b = false) := by
  refine ⟨(holds_flip a b op).symm, holds_negate_ne_iff, ?_⟩
  rintro ⟨ho, hnone⟩
  have hnegate : op.negate.isOrdering := by rwa [Operator.isOrdering_negate]
  exact ⟨holds_of_not_comparable ho hnone, holds_of_not_comparable hnegate hnone⟩

theorem nested_patterns_and_nan_operands :
    let pattern := (Pattern.compile? "ca+t" false).get (by rfl)
    let nan : Data := .double ⟨0x7ff8000000000000⟩
    let texts : Data := .list [.string "caat", .list [nan, .null]]
    let shapes : Data := .list [.pattern pattern, .list [nan, .null]]
    (texts.holds .equal shapes = true ∧ shapes.holds .equal texts = true) ∧
    (shapes.holds .notEqual texts ≠ shapes.holds .equal texts) ∧
    (Operator.less.isOrdering ∧ order? nan (.int64 1) = none) ∧
    (nan.holds .less (.int64 1) = false ∧ nan.holds .greaterEqual (.int64 1) = false) := by
  intro pattern nan texts shapes
  have hequal : texts.holds .equal shapes = true := by decide +kernel
  have hordering : Operator.less.isOrdering := rfl
  have hnone : order? nan (.int64 1) = none := by decide +kernel
  obtain ⟨hflip, -⟩ := operators_flip_and_negate texts shapes .equal
  obtain ⟨-, hnegate, -⟩ := operators_flip_and_negate shapes texts .equal
  obtain ⟨-, -, hneither⟩ := operators_flip_and_negate nan (.int64 1) .less
  exact ⟨⟨hequal, hflip.symm.trans hequal⟩, hnegate.mpr fun h => Bool.noConfusion h.1,
    ⟨hordering, hnone⟩, hneither ⟨hordering, hnone⟩⟩

end EventFilter.Data
