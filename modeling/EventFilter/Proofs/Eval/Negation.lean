import EventFilter.Proofs.Eval.Rows
import EventFilter.Proofs.Expr.Duality
import EventFilter.Proofs.Expr.Resolution

/-! An expression against its negation, row by row. A comparison and the one under the negated
operator are never both true. Nor are an expression and its negation once they are bound to a schema,
unless a name under an ordering stands for several columns and the row has them on both sides. -/

namespace EventFilter

theorem Cell.test_negate_ne_true {c : Cell} {op : Operator} {d : Data}
    (h : c.test op d = some true) : c.test op.negate d ≠ some true := by
  rcases c.test_negate_cases op d with hneg | ⟨v, -, hpos, hneg⟩
  · rw [hneg, h]
    simp [Truth.not]
  · have hv : v.holds op d = true := Option.some.inj (hpos.symm.trans h)
    simp [hneg, Data.holds_negate_eq_false hv]

namespace Truth

theorem inRow_replicate_eq_true_iff {row n : Nat} {t : Truth} :
    inRow row (.ok (List.replicate n t)) = some true ↔ row < n ∧ t = some true := by
  by_cases hrow : row < n <;> simp [inRow, hrow]

theorem inRow_test_eq_true_iff {row : Nat} {c : Column} {op : Operator} {d : Data} :
    inRow row (.ok (c.test op d)) = some true ↔
      ∃ cell, c.cells[row]? = some cell ∧ cell.test op d = some true := by
  cases hcell : c.cells[row]? <;> simp [inRow, Column.test, hcell]

end Truth

theorem Extractor.inRow_truths_negate_ne_true {x : Slice} {row : Nat} {y : Extractor}
    {op : Operator} {d : Data} (h : Truth.inRow row (y.truths op d (.slice x)) = some true) :
    Truth.inRow row (y.truths op.negate d (.slice x)) ≠ some true := by
  cases y with
  | metadata key =>
    simp only [truths, ne_eq, Truth.inRow_replicate_eq_true_iff, Option.map_eq_some_iff] at h ⊢
    rintro ⟨-, v, hv, hneg⟩
    obtain ⟨-, w, hw, hpos⟩ := h
    obtain rfl : w = v := Option.some.inj (hw.symm.trans hv)
    simp [Data.holds_negate_eq_false hpos] at hneg
  | data schema o =>
    by_cases hs : schema = x.schema
    · cases hc : x.column o with
      | error err => simp [truths, hs, hc, Truth.inRow] at h
      | ok c =>
        simp only [truths, hs, ne_eq, not_true_eq_false, if_false, hc,
          Truth.inRow_test_eq_true_iff] at h ⊢
        rintro ⟨cell, hcell, hneg⟩
        obtain ⟨other, hother, hpos⟩ := h
        obtain rfl : other = cell := Option.some.inj (hother.symm.trans hcell)
        exact Cell.test_negate_ne_true hpos hneg
    · simp [truths, hs, Truth.inRow] at h
  | field name => simp [truths, Truth.inRow] at h
  | type t => simp [truths, Truth.inRow] at h

theorem Predicate.truthAt_negated_ne_true {x : Slice} {row : Nat} {p : Predicate}
    (h : p.truthAt (.slice x) row = some true) : p.negated.truthAt (.slice x) row ≠ some true := by
  simp only [truthAt, truths, form_negated] at h ⊢
  cases hform : p.form with
  | constant a op b =>
    simp only [hform, Form.negated, ne_eq, Truth.inRow_replicate_eq_true_iff,
      Option.some.injEq] at h ⊢
    simp [Data.holds_negate_eq_false h.2]
  | test y op d =>
    rw [hform] at h
    exact Extractor.inRow_truths_negate_ne_true h
  | pair y z => simp [hform, Truth.inRow] at h

namespace Expr

variable {v : Predicate → Truth} {c : Connective} {e r q : Expr} {es rs qs : List Expr}

theorem meaning_of_join_all_eq_true (h : (join .all es).meaning v = some true) :
    ∀ e ∈ es, e.meaning v = some true := by
  cases es with
  | nil => simp
  | cons e rest =>
    rw [meaning_join (by simp), Connective.fold_all_eq_true_iff, List.forall_mem_map] at h
    exact h

theorem exists_meaning_of_join_any_eq_true (h : (join .any es).meaning v = some true) :
    ∃ e ∈ es, e.meaning v = some true := by
  cases es with
  | nil => simp [join] at h
  | cons e rest =>
    rw [meaning_join (by simp), Connective.fold_any_eq_true_iff] at h
    exact List.mem_map.mp h

/-- What two expressions resolve to is nothing for both or for neither, and not both are true. -/
structure Opposed (v : Predicate → Truth) (r q : Expr) : Prop where
  empty_iff : r = empty ↔ q = empty
  not_both : r.meaning v = some true → q.meaning v ≠ some true

theorem Opposed.symm (h : Opposed v r q) : Opposed v q r :=
  ⟨h.empty_iff.symm, fun hq hr => h.not_both hr hq⟩

theorem opposed_all_any (hr : ∀ r ∈ rs, r ≠ empty) (hq : ∀ q ∈ qs, q ≠ empty)
    (hleft : ∀ r ∈ rs, ∃ q ∈ qs, Opposed v r q) (hright : ∀ q ∈ qs, ∃ r ∈ rs, Opposed v r q) :
    Opposed v (join .all rs) (join .any qs) := by
  constructor
  · rw [join_eq_empty_iff hr, join_eq_empty_iff hq]
    constructor
    · rintro rfl
      exact List.eq_nil_iff_forall_not_mem.mpr fun q hmem => by simpa using hright q hmem
    · rintro rfl
      exact List.eq_nil_iff_forall_not_mem.mpr fun r hmem => by simpa using hleft r hmem
  · intro hall hany
    obtain ⟨q, hmem, htrue⟩ := exists_meaning_of_join_any_eq_true hany
    obtain ⟨r, hr, hopposed⟩ := hright q hmem
    exact hopposed.not_both (meaning_of_join_all_eq_true hall r hr) htrue

/-- Groups of both kinds are opposed if every child of either is opposed to one of the other. -/
theorem opposed_join (c : Connective) (hr : ∀ r ∈ rs, r ≠ empty) (hq : ∀ q ∈ qs, q ≠ empty)
    (hleft : ∀ r ∈ rs, ∃ q ∈ qs, Opposed v r q) (hright : ∀ q ∈ qs, ∃ r ∈ rs, Opposed v r q) :
    Opposed v (join c rs) (join c.dual qs) := by
  cases c with
  | all => exact opposed_all_any hr hq hleft hright
  | any =>
    refine (opposed_all_any hq hr (fun q hmem => ?_) fun r hmem => ?_).symm
    · obtain ⟨r, hr, hopposed⟩ := hright q hmem
      exact ⟨r, hr, hopposed.symm⟩
    · obtain ⟨q, hq, hopposed⟩ := hleft r hmem
      exact ⟨q, hq, hopposed.symm⟩

end Expr

namespace Predicate

variable {x : Slice} {row : Nat} {p : Predicate} {r q : Expr}

/-- Whether the predicate is an ordering of a name for several columns and the row has these on both
sides: one satisfies the ordering and one its negation. -/
def straddles (x : Slice) (row : Nat) (p : Predicate) : Bool :=
  match p.form with
  | .test y op d =>
    let satisfies (op : Operator) (leaf : Leaf) : Bool :=
      truthAt (.slice x) row ⟨.extractor (.data x.schema leaf.offset), op, .literal d⟩ == some true
    op.isOrdering && ((y.candidates x.schema op d).any (satisfies op) &&
      (y.candidates x.schema op d).any (satisfies op.negate))
  | _ => false

theorem candidates_negate (y : Extractor) (s : Schema) (op : Operator) (d : Data) :
    y.candidates s op.negate d = y.candidates s op d := by
  simp only [Extractor.candidates, DataType.compatible_negate]

theorem straddles_negated (x : Slice) (row : Nat) (p : Predicate) :
    p.negated.straddles x row = p.straddles x row := by
  unfold straddles
  rw [form_negated]
  cases p.form with
  | test y op d =>
    simp only [Form.negated, candidates_negate, Operator.isOrdering_negate,
      Operator.negate_negate]
    exact congrArg _ (Bool.and_comm _ _)
  | _ => rfl

theorem straddles_aligned (x : Slice) (row : Nat) (p : Predicate) :
    p.aligned.straddles x row = p.straddles x row := by
  rw [straddles, form_aligned, straddles]

theorem expansion_negate {op : Operator} (h : op.isOrdering = false) :
    expansion op.negate = (expansion op).dual := by
  cases op <;> first | rfl | simp [Operator.isOrdering] at h

theorem opposed_negated (p : Predicate) :
    Expr.Opposed (truthAt (.slice x) row) (.predicate p) (.predicate p.negated) :=
  ⟨by simp, truthAt_negated_ne_true⟩

theorem opposed_expansion {leaves : List Leaf} {op : Operator} {d : Data} (s : Schema)
    (h : op.isOrdering → ∀ a ∈ leaves, ∀ b ∈ leaves,
      (onLeaf s op d a).meaning (truthAt (.slice x) row) = some true →
      (onLeaf s op.negate d b).meaning (truthAt (.slice x) row) ≠ some true) :
    Expr.Opposed (truthAt (.slice x) row)
      (.join (expansion op) (leaves.map (onLeaf s op d)))
      (.join (expansion op.negate) (leaves.map (onLeaf s op.negate d))) := by
  have hne (op : Operator) : ∀ e ∈ leaves.map (onLeaf s op d), e ≠ .empty := by
    simp [onLeaf]
  have hopposed (leaf : Leaf) : Expr.Opposed (truthAt (.slice x) row) (onLeaf s op d leaf)
      (onLeaf s op.negate d leaf) := opposed_negated _
  cases ho : op.isOrdering with
  | false =>
    rw [expansion_negate ho]
    refine Expr.opposed_join (expansion op) (hne op) (hne op.negate) ?_ ?_
    · exact List.forall_mem_map.mpr fun leaf hleaf =>
        ⟨_, List.mem_map_of_mem hleaf, hopposed leaf⟩
    · exact List.forall_mem_map.mpr fun leaf hleaf =>
        ⟨_, List.mem_map_of_mem hleaf, hopposed leaf⟩
  | true =>
    -- both expand to a disjunction, so that two columns may satisfy one each
    have hany : expansion op = .any ∧ expansion op.negate = .any := by
      cases op <;> simp_all [Operator.isOrdering, expansion, Operator.isNegated, Operator.negate]
    rw [hany.1, hany.2]
    refine ⟨?_, fun hpos hneg => ?_⟩
    · rw [Expr.join_eq_empty_iff (hne op), Expr.join_eq_empty_iff (hne op.negate)]
      simp
    · obtain ⟨_, hmem, htrue⟩ := Expr.exists_meaning_of_join_any_eq_true hpos
      obtain ⟨a, ha, rfl⟩ := List.mem_map.mp hmem
      obtain ⟨_, hmem, hfalse⟩ := Expr.exists_meaning_of_join_any_eq_true hneg
      obtain ⟨b, hb, rfl⟩ := List.mem_map.mp hmem
      exact h ho a ha b hb htrue hfalse

theorem opposed_resolve_negated (hside : p.straddles x row = false)
    (hr : p.resolve x.schema = .ok r) (hq : p.negated.resolve x.schema = .ok q) :
    Expr.Opposed (truthAt (.slice x) row) r q := by
  have hkept (hr : (Except.ok (.predicate p) : Except ResolveError Expr) = .ok r)
      (hq : (Except.ok (.predicate p.negated) : Except ResolveError Expr) = .ok q) :
      Expr.Opposed (truthAt (.slice x) row) r q := by
    cases hr
    cases hq
    exact opposed_negated p
  have hexpanded {y : Extractor} {op : Operator} {d : Data} (hform : p.form = .test y op d)
      (hr : (Except.ok (.join (expansion op) ((y.candidates x.schema op d).map
        (onLeaf x.schema op d))) : Except ResolveError Expr) = .ok r)
      (hq : (Except.ok (.join (expansion op.negate) ((y.candidates x.schema op d).map
        (onLeaf x.schema op.negate d))) : Except ResolveError Expr) = .ok q) :
      Expr.Opposed (truthAt (.slice x) row) r q := by
    cases hr
    cases hq
    refine opposed_expansion x.schema fun ho a ha b hb htrue hfalse => ?_
    have hboth : p.straddles x row = true := by
      simp only [straddles, hform, ho, Bool.true_and, Bool.and_eq_true, List.any_eq_true,
        beq_iff_eq]
      exact ⟨⟨a, ha, htrue⟩, b, hb, hfalse⟩
    simp [hboth] at hside
  simp only [resolve, form_negated] at hr hq
  cases hform : p.form with
  | constant a op b =>
    rw [hform] at hr hq
    exact hkept hr hq
  | pair y z => simp [hform] at hr
  | test y op d =>
    rw [hform] at hr hq
    cases y with
    | metadata key => exact hkept hr hq
    | data bound o =>
      by_cases hbound : bound = x.schema
      · simp only [Form.negated, hbound, if_true] at hr hq
        exact hkept hr hq
      · simp [hbound] at hr
    | field name =>
      simp only [Form.negated, candidates_negate] at hr hq
      exact hexpanded hform hr hq
    | type t =>
      simp only [Form.negated, candidates_negate] at hr hq
      exact hexpanded hform hr hq

end Predicate

theorem Expr.opposed_resolve_denegate {x : Slice} {row : Nat} {e r q : Expr} (hpos : e.IsPositive)
    (hside : ∀ p ∈ e.leaves, p.straddles x row = false) (hr : e.resolve x.schema = .ok r)
    (hq : (e.denegate true).resolve x.schema = .ok q) :
    Opposed (Predicate.truthAt (.slice x) row) r q := by
  induction e generalizing r q with
  | empty =>
    cases hr
    cases hq
    exact ⟨Iff.rfl, by simp⟩
  | group c children ih =>
    obtain ⟨rs, hrs, rfl⟩ := resolve_group_eq_ok hr
    obtain ⟨qs, hqs, rfl⟩ := resolve_group_eq_ok hq
    rw [denegateAll_eq_map] at hqs
    have hchild : ∀ e ∈ children, ∀ r q, e.resolve x.schema = .ok r →
        (e.denegate true).resolve x.schema = .ok q →
        Opposed (Predicate.truthAt (.slice x) row) r q := fun e he r q =>
      ih e he (isPositive_group.mp hpos e he) fun p hp =>
        hside p (mem_leaves_group.mpr ⟨e, he, hp⟩)
    refine opposed_join c (fun r hr => (ne_empty_of_mem_resolveAll hrs hr).1)
      (fun q hq => (ne_empty_of_mem_resolveAll hqs hq).1) (fun r hr => ?_) fun q hq => ?_
    · obtain ⟨hne, e, he, hres⟩ := ne_empty_of_mem_resolveAll hrs hr
      obtain ⟨q, hq, hmem⟩ := exists_resolve_of_mem hqs (List.mem_map_of_mem he)
      have hopposed := hchild e he r q hres hq
      exact ⟨q, hmem.resolve_left fun hempty => hne (hopposed.empty_iff.mpr hempty), hopposed⟩
    · obtain ⟨hne, _, hmem, hres⟩ := ne_empty_of_mem_resolveAll hqs hq
      obtain ⟨e, he, rfl⟩ := List.mem_map.mp hmem
      obtain ⟨r, hr, hmem⟩ := exists_resolve_of_mem hrs he
      have hopposed := hchild e he r q hr hres
      exact ⟨r, hmem.resolve_left fun hempty => hne (hopposed.empty_iff.mp hempty), hopposed⟩
  | negation child _ => simp at hpos
  | predicate p => exact Predicate.opposed_resolve_negated (hside p (by simp [leaves])) hr hq

end EventFilter
