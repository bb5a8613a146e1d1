import EventFilter.Eval.Basic

/-! The laws of the three-valued connectives, and groups as folds over the truths of their
children. The truth of a group depends only on which truths occur among the children. -/

namespace EventFilter

namespace Truth

@[simp] theorem not_not (t : Truth) : t.not.not = t := by
  rcases t with _ | b <;> simp [not]

/-- A truth is known by when it is certain either way. -/
theorem eq_of_iff {t u : Truth} (htrue : t = some true ↔ u = some true)
    (hfalse : t = some false ↔ u = some false) : t = u := by
  rcases t with _ | _ | _ <;> rcases u with _ | _ | _ <;> simp_all

end Truth

namespace Connective

variable {c : Connective} {ts us : List Truth}

@[simp] theorem combine_unit (c : Connective) (t : Truth) : c.combine t c.unit = t := by
  cases c <;> rcases t with _ | _ | _ <;> rfl

@[simp] theorem unit_combine (c : Connective) (t : Truth) : c.combine c.unit t = t := by
  cases c <;> rcases t with _ | _ | _ <;> rfl

theorem combine_assoc (c : Connective) (t u w : Truth) :
    c.combine (c.combine t u) w = c.combine t (c.combine u w) := by
  cases c <;> rcases t with _ | _ | _ <;> rcases u with _ | _ | _ <;>
    rcases w with _ | _ | _ <;> rfl

theorem not_combine (c : Connective) (t u : Truth) :
    (c.combine t u).not = c.dual.combine t.not u.not := by
  cases c <;> rcases t with _ | _ | _ <;> rcases u with _ | _ | _ <;> rfl

theorem not_unit (c : Connective) : c.unit.not = c.dual.unit := by cases c <;> rfl

theorem combine_eq_unit_iff (c : Connective) (t u : Truth) :
    c.combine t u = c.unit ↔ t = c.unit ∧ u = c.unit := by
  cases c <;> rcases t with _ | _ | _ <;> rcases u with _ | _ | _ <;>
    simp [combine, unit, Truth.and, Truth.or]

/-- The unit of the dual decides a combination alone. -/
theorem combine_eq_dual_unit_iff (c : Connective) (t u : Truth) :
    c.combine t u = c.dual.unit ↔ t = c.dual.unit ∨ u = c.dual.unit := by
  cases c <;> rcases t with _ | _ | _ <;> rcases u with _ | _ | _ <;>
    simp [combine, unit, dual, Truth.and, Truth.or]

theorem unit_ne_dual_unit (c : Connective) : c.unit ≠ c.dual.unit := by
  cases c <;> simp [unit, dual]

/-- The truth of a group, from those of its children. -/
def fold (c : Connective) (ts : List Truth) : Truth := ts.foldr c.combine c.unit

@[simp] theorem fold_nil (c : Connective) : c.fold [] = c.unit := rfl

@[simp] theorem fold_cons (c : Connective) (t : Truth) (ts : List Truth) :
    c.fold (t :: ts) = c.combine t (c.fold ts) := rfl

theorem fold_append (c : Connective) (ts us : List Truth) :
    c.fold (ts ++ us) = c.combine (c.fold ts) (c.fold us) := by
  induction ts with
  | nil => simp
  | cons t ts ih => simp [ih, combine_assoc]

theorem fold_map_flatMap {α β : Type} (c : Connective) (f : α → List β) (g : β → Truth)
    (xs : List α) :
    c.fold ((xs.flatMap f).map g) = c.fold (xs.map fun x => c.fold ((f x).map g)) := by
  induction xs with
  | nil => rfl
  | cons x xs ih => simp [fold_append, ih]

theorem not_fold (c : Connective) (ts : List Truth) :
    (c.fold ts).not = c.dual.fold (ts.map Truth.not) := by
  induction ts with
  | nil => exact not_unit c
  | cons t ts ih => simp [not_combine, ih]

theorem fold_eq_unit_iff : c.fold ts = c.unit ↔ ∀ t ∈ ts, t = c.unit := by
  induction ts with
  | nil => simp
  | cons t ts ih => simp [combine_eq_unit_iff, ih]

theorem fold_eq_dual_unit_iff : c.fold ts = c.dual.unit ↔ c.dual.unit ∈ ts := by
  induction ts with
  | nil => simp [unit_ne_dual_unit]
  | cons t ts ih => simp [combine_eq_dual_unit_iff, ih, eq_comm]

theorem fold_all_eq_true_iff : all.fold ts = some true ↔ ∀ t ∈ ts, t = some true :=
  fold_eq_unit_iff (c := all)

theorem fold_all_eq_false_iff : all.fold ts = some false ↔ some false ∈ ts :=
  fold_eq_dual_unit_iff (c := all)

theorem fold_any_eq_true_iff : any.fold ts = some true ↔ some true ∈ ts :=
  fold_eq_dual_unit_iff (c := any)

theorem fold_any_eq_false_iff : any.fold ts = some false ↔ ∀ t ∈ ts, t = some false :=
  fold_eq_unit_iff (c := any)

/-- Order and repetition of the children make no difference. -/
theorem fold_eq_of_mem_iff (h : ∀ t, t ∈ ts ↔ t ∈ us) : c.fold ts = c.fold us := by
  cases c with
  | all =>
    refine Truth.eq_of_iff ?_ ?_
    · simp only [fold_all_eq_true_iff, h]
    · simp only [fold_all_eq_false_iff, h]
  | any =>
    refine Truth.eq_of_iff ?_ ?_
    · simp only [fold_any_eq_true_iff, h]
    · simp only [fold_any_eq_false_iff, h]

end Connective

end EventFilter
