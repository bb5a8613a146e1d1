import EventFilter.DataType.Compatible
import EventFilter.Proofs.DataType.Values

/-! Compatibility against values. A literal that a type does not admit for a comparison is in that
relation to no value of the type, with one exception: `in` admits a list only if it admits all
elements of the list, and finds a value that is equal to one of them. -/

namespace EventFilter.Data

variable {v d : Data} {t : DataType} {op : Operator}

theorem null_equals_eq_false (h : t.equality d = false) : null.equals d = false := by
  cases d <;> simp [DataType.equality, equals, order?, units?] at h ⊢

theorem item_equals_eq_false (h : t.equality d = false) (hv : v ≠ .null → v.equals d = false) :
    v.equals d = false := by
  by_cases hnull : v = .null
  · rw [hnull]
    exact null_equals_eq_false h
  · exact hv hnull

theorem equalsAll_eq_false {items ds : List Data} (h : DataType.equalityAll t ds = false)
    (hitems : ∀ v ∈ items, ∀ d, t.equality d = false → v.equals d = false) :
    equalsAll items ds = false := by
  induction ds generalizing items with
  | nil => simp [DataType.equalityAll] at h
  | cons d ds ih =>
    cases items with
    | nil => rfl
    | cons v items =>
      rw [equalsAll, Bool.and_eq_false_iff]
      cases hd : t.equality d with
      | false => exact .inl (hitems v (by simp) d hd)
      | true =>
        have hrest : DataType.equalityAll t ds = false := by
          simpa [DataType.equalityAll, hd] using h
        exact .inr (ih hrest fun w hw => hitems w (List.mem_cons_of_mem _ hw))

theorem HasType.equals_eq_false (hv : v.HasType t) (h : t.equality d = false) :
    v.equals d = false := by
  induction hv generalizing d with
  | @list items t a _ ih =>
    cases d with
    | list ds =>
      rw [equals]
      -- an element is a value of the element type or missing, and then it counts as null
      refine equalsAll_eq_false (by simpa [DataType.equality] using h) fun w hw e he => ?_
      exact item_equals_eq_false he fun hne => ih w hw hne he
    | _ => simp [equals, order?, units?]
  | _ => cases d <;> simp_all [DataType.equality, DataType.scalarEquality, equals, order?, units?]

theorem HasType.order?_eq_none (hv : v.HasType t) (h : t.ordering d = false) :
    order? v d = none := by
  cases hv <;> cases d <;> simp_all [DataType.ordering, order?, units?]

theorem HasType.contains_eq_false (hv : v.HasType t) (h : t.inclusion d = false) :
    v.contains d = false := by
  cases hv with
  | @list items t a typed =>
    have hd : t.equality d = false := h
    simp only [contains, List.any_eq_false, Bool.not_eq_true]
    intro w hw
    exact item_equals_eq_false hd fun hne => (typed w hw hne).equals_eq_false hd
  | string s a => cases d <;> simp_all [DataType.inclusion, contains]
  | _ => rfl

/-- Whether the literal is a list, asked for by `in`, with an element that is equal to the value. -/
def isListed (op : Operator) (d v : Data) : Bool :=
  match op, d with
  | .isIn, .list items => items.any (·.equals v)
  | _, _ => false

theorem HasType.contained_eq_isListed (hv : v.HasType t) (h : t.membership d = false) :
    d.contains v = isListed .isIn d v := by
  cases d with
  | list items => rfl
  | string s => cases hv <;> simp_all [DataType.membership, contains, isListed]
  | _ => rfl

theorem HasType.holds_of_incompatible (hv : v.HasType t) (hop : op.isNegated = false)
    (h : t.compatible op d = false) : v.holds op d = isListed op d v := by
  cases op with
  | equal => exact hv.equals_eq_false h
  | less | lessEqual | greater | greaterEqual =>
    have hnone := hv.order?_eq_none h
    simp [holds, hnone, isListed]
  | isIn => exact hv.contained_eq_isListed h
  | ni => exact hv.contains_eq_false h
  | notEqual | notIn | notNi => simp [Operator.isNegated] at hop

end EventFilter.Data
