import EventFilter.Expr.MayHold
import EventFilter.Expr.Resolve
import EventFilter.Proofs.Expr.Structure

/-! What resolution makes of the parts of an expression. -/

namespace EventFilter

namespace Extractor

variable {y : Extractor} {s : Schema} {leaf : Leaf}

/-- The leaves that an extractor stands for, whatever their types admit. -/
def named (y : Extractor) (s : Schema) : List Leaf :=
  match y with
  | field name => s.namedLeaves name
  | type t => s.leaves.filter fun leaf => matchesType t leaf.type
  | _ => []

theorem candidates_eq_filter (y : Extractor) (s : Schema) (op : Operator) (d : Data) :
    y.candidates s op d = (y.named s).filter fun leaf => leaf.type.compatible op d := rfl

theorem mem_leaves_of_mem_named (h : leaf ∈ y.named s) : leaf ∈ s.leaves := by
  cases y with
  | field name =>
    by_cases hname : name.isEmpty
    · simp [named, Schema.namedLeaves, hname] at h
    · simp only [named, Schema.namedLeaves, hname] at h
      exact List.filter_sublist.subset h
  | type t => exact List.filter_sublist.subset h
  | _ => simp [named] at h

end Extractor

namespace Expr

variable {s : Schema} {c : Connective} {e r : Expr} {es rs : List Expr}

theorem join_ne_empty (hne : es ≠ []) (h : ∀ e ∈ es, e ≠ empty) : join c es ≠ empty := by
  match es with
  | [] => exact absurd rfl hne
  | [e] => exact h e (by simp)
  | e :: f :: rest => simp [join]

theorem join_eq_empty_iff (h : ∀ e ∈ es, e ≠ empty) : join c es = empty ↔ es = [] := by
  constructor
  · intro hempty
    cases es with
    | nil => rfl
    | cons e rest => exact absurd hempty (join_ne_empty (by simp) h)
  · rintro rfl
    rfl

theorem resolveAll_cons_eq_ok (h : resolveAll s (e :: es) = .ok rs) :
    ∃ r rest, e.resolve s = .ok r ∧ resolveAll s es = .ok rest ∧
      rs = if r.isEmpty then rest else r :: rest := by
  cases he : e.resolve s with
  | error err => simp [resolveAll, he] at h
  | ok r =>
    cases hes : resolveAll s es with
    | error err => simp [resolveAll, he, hes] at h
    | ok rest =>
      simp only [resolveAll, he, hes, Except.ok.injEq] at h
      exact ⟨r, rest, rfl, rfl, h.symm⟩

theorem isEmpty_iff : e.isEmpty = true ↔ e = empty := by cases e <;> simp [isEmpty]

/-- Every child resolves, to nothing or to a child of the result. -/
theorem exists_resolve_of_mem (h : resolveAll s es = .ok rs) (he : e ∈ es) :
    ∃ r, e.resolve s = .ok r ∧ (r = empty ∨ r ∈ rs) := by
  induction es generalizing rs with
  | nil => simp at he
  | cons f es ih =>
    obtain ⟨q, rest, hq, hrest, rfl⟩ := resolveAll_cons_eq_ok h
    rcases List.mem_cons.mp he with rfl | he
    · refine ⟨q, hq, ?_⟩
      by_cases hempty : q.isEmpty
      · exact .inl (isEmpty_iff.mp hempty)
      · simp [hempty]
    · obtain ⟨r, hr, hmem⟩ := ih hrest he
      refine ⟨r, hr, hmem.imp id fun hmem => ?_⟩
      split
      · exact hmem
      · exact List.mem_cons_of_mem _ hmem

theorem ne_empty_of_mem_resolveAll (h : resolveAll s es = .ok rs) (hr : r ∈ rs) :
    r ≠ empty ∧ ∃ e ∈ es, e.resolve s = .ok r := by
  induction es generalizing rs with
  | nil =>
    obtain rfl : [] = rs := by simpa [resolveAll] using h
    simp at hr
  | cons f es ih =>
    obtain ⟨q, rest, hq, hrest, rfl⟩ := resolveAll_cons_eq_ok h
    have htail (hr : r ∈ rest) : r ≠ empty ∧ ∃ e ∈ f :: es, e.resolve s = .ok r := by
      obtain ⟨hne, e, he, hres⟩ := ih hrest hr
      exact ⟨hne, e, List.mem_cons_of_mem _ he, hres⟩
    by_cases hempty : q.isEmpty
    · exact htail (by simpa [hempty] using hr)
    · rcases List.mem_cons.mp (by simpa [hempty] using hr) with rfl | hr
      · exact ⟨fun he => hempty (isEmpty_iff.mpr he), f, by simp, hq⟩
      · exact htail hr

theorem resolve_group_eq_ok (h : (group c es).resolve s = .ok r) :
    ∃ rs, resolveAll s es = .ok rs ∧ r = join c rs := by
  cases hes : resolveAll s es with
  | error err => simp [resolve, hes] at h
  | ok rs =>
    simp only [resolve, hes, Except.ok.injEq] at h
    exact ⟨rs, rfl, h.symm⟩

theorem mem_resolveAll_iff (h : resolveAll s es = .ok rs) :
    r ∈ rs ↔ r ≠ empty ∧ ∃ e ∈ es, e.resolve s = .ok r := by
  constructor
  · exact ne_empty_of_mem_resolveAll h
  · rintro ⟨hne, e, he, hr⟩
    obtain ⟨q, hq, hmem⟩ := exists_resolve_of_mem h he
    obtain rfl : q = r := Except.ok.inj (hq.symm.trans hr)
    exact hmem.resolve_left hne

theorem resolve_join_eq_ok (h : (join c es).resolve s = .ok r) :
    ∃ rs, resolveAll s es = .ok rs ∧ r = join c rs := by
  match es with
  | [] =>
    obtain rfl : empty = r := by simpa [join, resolve] using h
    exact ⟨[], rfl, rfl⟩
  | [e] =>
    have he : e.resolve s = .ok r := h
    refine ⟨if r.isEmpty then [] else [r], by simp [resolveAll, he], ?_⟩
    by_cases hempty : r.isEmpty
    · simp [isEmpty_iff.mp hempty, isEmpty, join]
    · simp [hempty, join]
  | e :: f :: rest => exact resolve_group_eq_ok h

/-- The parts that a conjunction is made of; any other expression is its only part. -/
def conjuncts : Expr → List Expr
  | group .all children => children
  | e => [e]

theorem conjuncts_cases (e : Expr) :
    (∃ es, e = group .all es ∧ e.conjuncts = es) ∨ e.conjuncts = [e] := by
  match e with
  | group .all es => exact .inl ⟨es, rfl, rfl⟩
  | group .any es => exact .inr rfl
  | empty => exact .inr rfl
  | negation _ => exact .inr rfl
  | predicate _ => exact .inr rfl

theorem resolve_conjuncts_eq_ok (h : e.resolve s = .ok r) :
    ∃ rs, resolveAll s e.conjuncts = .ok rs ∧ r = join .all rs := by
  rcases conjuncts_cases e with ⟨es, rfl, hes⟩ | hes
  · rw [hes]
    exact resolve_group_eq_ok h
  · rw [hes]
    exact resolve_join_eq_ok h

theorem conjuncts_ne_nil (h : e.IsProper) : e.conjuncts ≠ [] := by
  rcases conjuncts_cases e with ⟨es, rfl, hes⟩ | hes
  · rw [hes]
    exact (isProper_group.mp h).1
  · simp [hes]

theorem isPositive_resolve_predicate {p : Predicate} (h : p.resolve s = .ok r) :
    r.IsPositive := by
  unfold Predicate.resolve at h
  split at h
  · cases h; simp
  · simp at h
  · cases h; simp
  · split at h
    · cases h; simp
    · simp at h
  · cases h
    refine isPositive_join fun x hx => ?_
    obtain ⟨leaf, -, rfl⟩ := List.mem_map.mp hx
    simp [Predicate.onLeaf]

theorem isPositive_resolve (he : e.IsPositive) (h : e.resolve s = .ok r) : r.IsPositive := by
  induction e generalizing r with
  | empty => cases h; simp
  | group c children ih =>
    obtain ⟨rs, hrs, rfl⟩ := resolve_group_eq_ok h
    refine isPositive_join fun x hx => ?_
    obtain ⟨-, e, hmem, hres⟩ := ne_empty_of_mem_resolveAll hrs hx
    exact ih e hmem (isPositive_group.mp he e hmem) hres
  | negation child _ => simp at he
  | predicate p => exact isPositive_resolve_predicate h

/-! ### Verdicts on groups -/

variable {may : Predicate → Bool} {negate : Bool}

theorem allMayHold_eq_all (negate : Bool) (es : List Expr) :
    allMayHold may negate es = es.all (·.mayHold may negate) := by
  induction es with
  | nil => rfl
  | cons e rest ih => simp [allMayHold, ih]

theorem anyMayHold_eq_any (negate : Bool) (es : List Expr) :
    anyMayHold may negate es = es.any (·.mayHold may negate) := by
  induction es with
  | nil => rfl
  | cons e rest ih => simp [anyMayHold, ih]

theorem mayHold_eq_false_iff_of_under_all (hc : c.under negate = .all) :
    (group c es).mayHold may negate = false ↔ ∃ e ∈ es, e.mayHold may negate = false := by
  simp [mayHold, hc, allMayHold_eq_all]

theorem mayHold_eq_false_iff_of_under_any (hc : c.under negate = .any) :
    (group c es).mayHold may negate = false ↔ ∀ e ∈ es, e.mayHold may negate = false := by
  simp [mayHold, hc, anyMayHold_eq_any]

theorem mayHold_all_eq_false_iff :
    (group .all es).mayHold may false = false ↔ ∃ e ∈ es, e.mayHold may false = false :=
  mayHold_eq_false_iff_of_under_all rfl

theorem mayHold_any_eq_false_iff :
    (group .any es).mayHold may false = false ↔ ∀ e ∈ es, e.mayHold may false = false :=
  mayHold_eq_false_iff_of_under_any rfl

end Expr

end EventFilter
