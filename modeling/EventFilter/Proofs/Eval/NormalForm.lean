import EventFilter.Proofs.Eval.Rows
import EventFilter.Proofs.Expr.NormalForm

/-! Normalization keeps the meaning of proper expressions, if a negated operator complements the
answer of its predicate. It does unless an ordering meets operands that have no order. -/

namespace EventFilter

namespace Expr

variable {v : Predicate → Truth} {c : Connective} {e : Expr}

theorem fold_splice (c : Connective) (e : Expr) :
    c.fold ((splice c e).map (·.meaning v)) = e.meaning v := by
  rcases splice_cases c e with ⟨es, rfl, hs⟩ | hs
  · rw [hs, meaning_group]
  · simp [hs]

theorem meaning_hoist (h : e.IsProper) : e.hoist.meaning v = e.meaning v := by
  induction e with
  | group c children ih =>
    have hc := (isProper_group.mp h).2
    have hproper := isProper_hoist h
    have hmap : children.map (fun e => e.hoist.meaning v) = children.map (·.meaning v) :=
      List.map_congr_left fun e he => ih e he (hc e he)
    have hne : hoistAll c children ≠ [] := by
      intro hnil
      exact hproper.ne_empty (by rw [hoist, hnil, join])
    rw [hoist, meaning_join hne, hoistAll_eq_flatMap, Connective.fold_map_flatMap]
    simp only [fold_splice, hmap, meaning_group]
  | negation child ih => simp [hoist, ih (by simpa using h)]
  | _ => rfl

/-- Negations that are pushed to the leaves act there. -/
theorem meaning_denegate (h : e.IsProper) (hneg : ∀ p ∈ e.leaves, v p.negated = (v p).not)
    (negate : Bool) :
    (e.denegate negate).meaning v = if negate then (e.meaning v).not else e.meaning v := by
  induction e generalizing negate with
  | empty => simp at h
  | group c children ih =>
    have hc : ∀ e ∈ children, ∀ n, (e.denegate n).meaning v =
        if n then (e.meaning v).not else e.meaning v := fun e he =>
      ih e he ((isProper_group.mp h).2 e he) fun p hp => hneg p (mem_leaves_group.mpr ⟨e, he, hp⟩)
    have hmap := List.map_congr_left fun e he => hc e he negate
    cases negate with
    | true =>
      simp only [denegate, denegateAll_eq_map, meaning_group, List.map_map, Function.comp_def, hmap,
        Connective.not_fold, Connective.under, if_true]
    | false =>
      simp [denegate, denegateAll_eq_map, Function.comp_def, hmap, Connective.under]
  | negation child ih =>
    have hchild := ih (by simpa using h) hneg (!negate)
    cases negate with
    | true => simpa [denegate] using hchild
    | false => simpa [denegate] using hchild
  | predicate p =>
    cases negate with
    | true => simpa [denegate] using hneg p (by simp [leaves])
    | false => simp [denegate]

theorem meaning_align (hv : ∀ p, v p.aligned = v p) (e : Expr) :
    e.align.meaning v = e.meaning v := by
  induction e with
  | empty => rfl
  | group c children ih =>
    simp [align, alignAll_eq_map, Function.comp_def, List.map_congr_left ih]
  | negation child ih => simp [align, ih]
  | predicate p => exact hv p

theorem meaning_deduplicate (h : e.IsProper) : e.deduplicate.meaning v = e.meaning v := by
  induction e with
  | group c children ih =>
    have hproper := isProper_deduplicate h
    have hmap : children.map (fun e => e.deduplicate.meaning v) = children.map (·.meaning v) :=
      List.map_congr_left fun e he => ih e he ((isProper_group.mp h).2 e he)
    have hne : (deduplicateAll children).eraseDups ≠ [] := by
      intro hnil
      exact hproper.ne_empty (by rw [deduplicate, hnil, join])
    rw [deduplicate, meaning_join hne, meaning_group, ← hmap]
    refine Connective.fold_eq_of_mem_iff fun t => ?_
    simp only [deduplicateAll_eq_map, List.mem_map, List.mem_eraseDups]
    constructor
    · rintro ⟨_, ⟨e, he, rfl⟩, rfl⟩
      exact ⟨e, he, rfl⟩
    · rintro ⟨e, he, rfl⟩
      exact ⟨_, ⟨e, he, rfl⟩, rfl⟩
  | negation child ih => simp [deduplicate, ih (by simpa using h)]
  | _ => rfl

theorem meaning_tidy (h : e.IsProper) : e.tidy.meaning v = e.meaning v := by
  rw [tidy, meaning_deduplicate (isProper_hoist h), meaning_hoist h]

theorem meaning_normalize (h : e.IsProper) (hv : ∀ p, v p.aligned = v p)
    (hneg : ∀ p ∈ e.leaves, v p.negated = (v p).not) : e.normalize.meaning v = e.meaning v := by
  have hkeep : e.normalize.IsProper ∧ e.normalize.meaning v = e.meaning v := by
    refine normalize_induction (motive := fun x => x.IsProper ∧ x.meaning v = e.meaning v) ?_ ?_
    · have hhoist := isProper_hoist h
      have hdenegate := isProper_denegate false hhoist
      have halign := isProper_align hdenegate
      refine ⟨isProper_deduplicate halign, ?_⟩
      rw [meaning_deduplicate halign, meaning_align hv,
        meaning_denegate hhoist (by rwa [leaves_hoist]) false]
      exact meaning_hoist h
    · intro x ⟨hx, hmeaning⟩
      exact ⟨isProper_deduplicate (isProper_hoist hx), (meaning_tidy hx).trans hmeaning⟩
  exact hkeep.2

end Expr

/-- The values that an extractor meets on a slice: one of the metadata, or those of a column. -/
def Extractor.values (s : Slice) : Extractor → List Data
  | metadata key => (s.metadata? key).toList
  | data schema o =>
    if schema = s.schema then ((s.column? o).map (·.cells.filterMap Cell.value?)).getD [] else []
  | field _ | type _ => []

/-- The pairs of values that a predicate compares on a slice. -/
def Predicate.comparisons (s : Slice) (p : Predicate) : List (Data × Data) :=
  match p.form with
  | .constant a _ b => [(a, b)]
  | .test x _ d => (x.values s).map fun v => (v, d)
  | .pair _ _ => []

/-- Whether an ordering has an answer for all values that it compares on a slice. -/
def Predicate.IsComparableOn (s : Slice) (p : Predicate) : Prop :=
  p.op.isOrdering → ∀ c ∈ p.comparisons s, (Data.order? c.1 c.2).isSome

instance (s : Slice) (p : Predicate) : Decidable (p.IsComparableOn s) :=
  inferInstanceAs (Decidable (_ → _))

theorem Column.test_negate {c : Column} {op : Operator} {d : Data}
    (h : op.isOrdering → ∀ v ∈ c.cells.filterMap Cell.value?, (Data.order? v d).isSome) :
    c.test op.negate d = (c.test op d).map Truth.not := by
  simp only [test, List.map_map]
  refine List.map_congr_left fun cell hcell => Cell.test_negate fun hop v hv => ?_
  exact h hop v (List.mem_filterMap.mpr ⟨cell, hcell, hv⟩)

theorem Extractor.truths_negate {s : Slice} {x : Extractor} {op : Operator} {d : Data}
    (h : op.isOrdering → ∀ v ∈ x.values s, (Data.order? v d).isSome) :
    x.truths op.negate d (.slice s) = (x.truths op d (.slice s)).map (List.map Truth.not) := by
  cases x with
  | metadata key =>
    cases hm : s.metadata? key with
    | none => simp [truths, hm, Except.map, Truth.not]
    | some v =>
      have hv := Data.holds_negate (a := v) (b := d) fun hop => h hop v (by simp [values, hm])
      simp [truths, hm, Except.map, Truth.not, hv]
  | data schema o =>
    by_cases hs : schema = s.schema
    · cases hc : s.column o with
      | error err => simp [truths, hs, hc, Except.map]
      | ok c =>
        have hneg := Column.test_negate (c := c) (d := d) fun hop => by
          simpa [values, hs, Slice.column?_of_column hc] using h hop
        simp [truths, hs, hc, Except.map, hneg]
    · simp [truths, hs, Except.map]
  | field name => rfl
  | type t => rfl

theorem Predicate.truthAt_negated {s : Slice} {p : Predicate} (h : p.IsComparableOn s)
    (row : Nat) : p.negated.truthAt (.slice s) row = (p.truthAt (.slice s) row).not := by
  obtain ⟨l, op, r⟩ := p
  match l, r with
  | .literal a, .literal b =>
    have hab : a.holds op.negate b = !a.holds op b :=
      Data.holds_negate fun hop => h hop (a, b) (by simp [comparisons, form])
    have := Truth.inRow_map_not row (.ok (List.replicate s.rows (some (a.holds op b))))
    simpa [truthAt, truths, negated, form, hab, Input.rows, Except.map, Truth.not] using this
  | .extractor x, .literal d =>
    have hx : x.truths op.negate d (.slice s) = (x.truths op d (.slice s)).map (List.map .not) :=
      Extractor.truths_negate fun hop v hv => h hop (v, d) (List.mem_map_of_mem hv)
    simp only [truthAt, truths, negated, form, hx, Truth.inRow_map_not]
  | .literal d, .extractor x =>
    have hx : x.truths op.flip.negate d (.slice s) =
        (x.truths op.flip d (.slice s)).map (List.map .not) :=
      Extractor.truths_negate fun hop v hv =>
        h (by simpa using hop) (v, d) (List.mem_map_of_mem hv)
    simp only [truthAt, truths, negated, form, Operator.flip_negate, hx, Truth.inRow_map_not]
  | .extractor x, .extractor y => rfl

/-- Row for row, the normal form selects what the expression selects, and pushing a negation to
the leaves selects what the negation selects. -/
theorem Expr.normalize_selects_same_rows {e : Expr} {s : Slice} (he : e.IsProper)
    (hs : ∀ p ∈ e.leaves, p.IsComparableOn s) :
    e.normalize.truths (.slice s) = e.truths (.slice s) ∧ e.normalize.mask s = e.mask s ∧
      (e.denegate true).truths (.slice s) = (negation e).truths (.slice s) ∧
      (e.denegate true).mask s = (negation e).mask s := by
  have hneg (row : Nat) : ∀ p ∈ e.leaves, p.negated.truthAt (.slice s) row =
      (p.truthAt (.slice s) row).not := fun p hp => Predicate.truthAt_negated (hs p hp) row
  have hnormal : e.normalize.truths (.slice s) = e.truths (.slice s) := by
    rw [truths_eq_map, truths_eq_map]
    exact List.map_congr_left fun row _ =>
      meaning_normalize he (Predicate.truthAt_aligned _ row) (hneg row)
  have hdenegate : (e.denegate true).truths (.slice s) = (negation e).truths (.slice s) := by
    rw [truths_eq_map, truths_eq_map]
    exact List.map_congr_left fun row _ => meaning_denegate he (hneg row) true
  exact ⟨hnormal, by rw [mask, hnormal, mask], hdenegate, by rw [mask, hdenegate, mask]⟩

def countSchema : Schema := ⟨"flow", [("count", .scalar .int64)], []⟩

def countSlice : Slice where
  schema := countSchema
  batch :=
    { rows := 3
      columns := [("count", ⟨.int64, [.int64 1, .null, .int64 9]⟩)]
      rectangular := by decide
      typed := by decide }
  accepted := by decide

/-- Neither above five, which is said twice, nor different from one and five. -/
def countExpr : Expr :=
  let count := Operand.extractor (.data countSchema [0])
  let large := Expr.predicate ⟨.literal (.int64 5), .less, count⟩
  .negation (.group .any [.group .any [large, .negation (.negation large)],
    .negation (.group .any [.predicate ⟨count, .equal, .literal (.int64 1)⟩,
      .predicate ⟨count, .equal, .literal (.int64 5)⟩])])

theorem normalize_selects_small_counts :
    countExpr.IsProper ∧ (∀ p ∈ countExpr.leaves, p.IsComparableOn countSlice) ∧
      countExpr.normalize.truths (.slice countSlice) = [some true, none, some false] ∧
      countExpr.normalize.mask countSlice = [true, false, false] := by
  have hproper : countExpr.IsProper := by decide
  have hcomparable : ∀ p ∈ countExpr.leaves, p.IsComparableOn countSlice := by decide +kernel
  obtain ⟨htruths, hmask, -⟩ := Expr.normalize_selects_same_rows hproper hcomparable
  refine ⟨hproper, hcomparable, htruths.trans ?_, hmask.trans ?_⟩
  · decide +kernel
  · decide +kernel

end EventFilter
