import EventFilter.Expr.SchemaMatch
import EventFilter.Filter.Basic
import EventFilter.Proofs.Eval.Rows
import EventFilter.Proofs.Expr.Duality
import EventFilter.Proofs.Expr.Resolution

/-! Verdicts against rows. A verdict that an expression cannot hold is right in every row where it
is right of the predicates; the verdict of a schema on an unresolved expression is right of what
the expression resolves to. -/

namespace EventFilter

namespace Predicate

variable {p : Predicate} {s : Schema}

theorem exists_form_of_isSchemaTest (h : (Expr.predicate p).isSchemaTest) :
    ∃ key op d, p.form = .test (.metadata key) op d ∧ (key = .schema ∨ key = .schemaId) := by
  simp only [Expr.isSchemaTest] at h
  split at h
  · rename_i op d hform
    exact ⟨.schema, op, d, hform, .inl rfl⟩
  · rename_i op d hform
    exact ⟨.schemaId, op, d, hform, .inr rfl⟩
  · simp at h

theorem isSchemaTest_of_mightMatchSchema_eq_false (h : p.mightMatchSchema s = false) :
    (Expr.predicate p).isSchemaTest := by
  unfold mightMatchSchema at h
  split at h
  · rename_i hform
    simp [Expr.isSchemaTest, hform]
  · rename_i hform
    simp [Expr.isSchemaTest, hform]
  · simp at h

@[simp] theorem isSchemaTest_negated (p : Predicate) :
    (Expr.predicate p.negated).isSchemaTest = (Expr.predicate p).isSchemaTest := by
  simp only [Expr.isSchemaTest, form_negated]
  cases p.form with
  | test x op d =>
    cases x with
    | metadata key => cases key <;> rfl
    | _ => rfl
  | _ => rfl

end Predicate

theorem Connective.dual_unit_of_under_all {c : Connective} {negate : Bool}
    (h : c.under negate = .all) : c.dual.unit = some negate := by
  cases c <;> cases negate <;> first | rfl | simp [under, dual] at h

theorem Connective.unit_of_under_any {c : Connective} {negate : Bool}
    (h : c.under negate = .any) : c.unit = some negate := by
  cases c <;> cases negate <;> first | rfl | simp [under, dual] at h

namespace Expr

variable {v : Predicate → Truth} {may : Predicate → Bool} {e r : Expr} {s : Schema}

theorem resolve_of_isSchemaTest (h : e.isSchemaTest) : e.resolve s = .ok e ∧ e ≠ empty := by
  cases e with
  | predicate p =>
    obtain ⟨key, op, d, hform, -⟩ := Predicate.exists_form_of_isSchemaTest h
    exact ⟨by simp [resolve, Predicate.resolve, hform], by simp⟩
  | _ => simp [isSchemaTest] at h

theorem meaning_ne_true_of_mayHold_eq_false (he : e.IsPositive)
    (hv : ∀ p ∈ e.leaves, may p = false → v p ≠ some true) (h : e.mayHold may false = false) :
    e.meaning v ≠ some true := by
  induction e with
  | empty => simp
  | group c children ih =>
    have hchild : ∀ e ∈ children, e.mayHold may false = false → e.meaning v ≠ some true :=
      fun e hmem => ih e hmem (isPositive_group.mp he e hmem) fun p hp =>
        hv p (mem_leaves_group.mpr ⟨e, hmem, hp⟩)
    rw [meaning_group]
    cases c with
    | all =>
      obtain ⟨e, hmem, hfalse⟩ := mayHold_all_eq_false_iff.mp h
      intro htrue
      exact hchild e hmem hfalse
        (Connective.fold_all_eq_true_iff.mp htrue _ (List.mem_map.mpr ⟨e, hmem, rfl⟩))
    | any =>
      have hfalse := mayHold_any_eq_false_iff.mp h
      intro htrue
      obtain ⟨e, hmem, he⟩ := List.mem_map.mp (Connective.fold_any_eq_true_iff.mp htrue)
      exact hchild e hmem (hfalse e hmem) he
  | negation child _ => simp at he
  | predicate p => exact hv p (by simp [leaves]) h

/-- Dropped children take no part in a verdict against a schema: what the verdict rests on is
kept by resolution. Ruling out the negation of an expression makes the expression true. -/
theorem meaning_of_mightMatchSchema_eq_false {negate : Bool} (hproper : e.IsProper)
    (hv : ∀ b p, (b, p) ∈ e.signedLeaves negate →
      (if b then p.negated else p).mightMatchSchema s = false → v p = some b)
    (h : e.mayHold (·.mightMatchSchema s) negate = false) (hr : e.resolve s = .ok r) :
    r ≠ empty ∧ r.meaning v = some negate := by
  induction e generalizing negate r with
  | empty => simp at hproper
  | group c children ih =>
    obtain ⟨rs, hrs, rfl⟩ := resolve_group_eq_ok hr
    obtain ⟨hne, hc⟩ := isProper_group.mp hproper
    have hchild : ∀ e ∈ children, e.mayHold (·.mightMatchSchema s) negate = false →
        ∀ q, e.resolve s = .ok q → q ≠ empty ∧ q.meaning v = some negate :=
      fun e he hfalse q hq => ih e he (hc e he)
        (fun b p hp => hv b p (mem_signedLeaves_group.mpr ⟨e, he, hp⟩)) hfalse hq
    have hkept : ∀ e ∈ children, e.mayHold (·.mightMatchSchema s) negate = false →
        ∃ q ∈ rs, q.meaning v = some negate := by
      intro e he hfalse
      obtain ⟨q, hq, hmem⟩ := exists_resolve_of_mem hrs he
      obtain ⟨hq', hmeaning⟩ := hchild e he hfalse q hq
      exact ⟨q, hmem.resolve_left hq', hmeaning⟩
    have hjoin (hrs' : rs ≠ []) : join c rs ≠ empty :=
      join_ne_empty hrs' fun r hr => (ne_empty_of_mem_resolveAll hrs hr).1
    -- one child settles the group, or all of them do
    cases hunder : c.under negate with
    | all =>
      obtain ⟨e, he, hfalse⟩ := (mayHold_eq_false_iff_of_under_all hunder).mp h
      obtain ⟨q, hq, hmeaning⟩ := hkept e he hfalse
      have hrs' := List.ne_nil_of_mem hq
      rw [meaning_join hrs', ← Connective.dual_unit_of_under_all hunder,
        Connective.fold_eq_dual_unit_iff, Connective.dual_unit_of_under_all hunder]
      exact ⟨hjoin hrs', List.mem_map.mpr ⟨q, hq, hmeaning⟩⟩
    | any =>
      have hfalse := (mayHold_eq_false_iff_of_under_any hunder).mp h
      obtain ⟨e, he⟩ := List.exists_mem_of_ne_nil children hne
      obtain ⟨q, hq, -⟩ := hkept e he (hfalse e he)
      have hrs' := List.ne_nil_of_mem hq
      rw [meaning_join hrs', ← Connective.unit_of_under_any hunder,
        Connective.fold_eq_unit_iff, Connective.unit_of_under_any hunder]
      refine ⟨hjoin hrs', List.forall_mem_map.mpr fun q hq => ?_⟩
      obtain ⟨-, e, he, hres⟩ := ne_empty_of_mem_resolveAll hrs hq
      exact (hchild e he (hfalse e he) q hres).2
  | negation child ih =>
    cases hres : child.resolve s with
    | error err => simp [resolve, hres] at hr
    | ok q =>
      obtain ⟨hne, hmeaning⟩ := ih (isProper_negation.mp hproper) hv h hres
      obtain rfl : negation q = r := by
        cases q <;> simp_all [resolve]
      exact ⟨by simp, by simp [hmeaning, Truth.not]⟩
  | predicate p =>
    have htest := Predicate.isSchemaTest_of_mightMatchSchema_eq_false h
    have hsame : (predicate p).isSchemaTest := by cases negate <;> simpa using htest
    obtain rfl : predicate p = r :=
      Except.ok.inj ((resolve_of_isSchemaTest (s := s) hsame).1.symm.trans hr)
    exact ⟨by simp, hv negate p (by simp [signedLeaves]) h⟩

end Expr

theorem Predicate.truthAt_of_isSchemaTest {x : Slice} {row : Nat} {p : Predicate}
    (hrow : row < x.rows) (h : (Expr.predicate p).isSchemaTest) :
    p.truthAt (.slice x) row = some (p.mightMatchSchema x.schema) := by
  obtain ⟨key, op, d, hform, rfl | rfl⟩ := exists_form_of_isSchemaTest h
  · simp [truthAt, truths, hform, Extractor.truths, Slice.metadata?, Truth.inRow,
      mightMatchSchema, hrow]
  · simp [truthAt, truths, hform, Extractor.truths, Slice.metadata?, Truth.inRow,
      mightMatchSchema, hrow]

/-- A verdict that excludes the schema is right in every row, if the tests that stand under an odd
number of negations have the complement for a verdict on their negation. -/
theorem Expr.mask_of_exact_exclusion {e r : Expr} {x : Slice} (hproper : e.IsProper)
    (hexact : ∀ p, (true, p) ∈ e.signedLeaves false →
      p.negated.mightMatchSchema x.schema = false → p.mightMatchSchema x.schema = true)
    (h : e.mightMatchSchema x.schema = false) (hr : e.resolve x.schema = .ok r) :
    r.mask x = List.replicate x.rows false := by
  refine mask_eq_replicate fun row hrow => ?_
  refine (meaning_of_mightMatchSchema_eq_false hproper (fun b p hp hfalse => ?_) h hr).2
  cases b with
  | false =>
    replace hfalse : p.mightMatchSchema x.schema = false := hfalse
    have htest := Predicate.isSchemaTest_of_mightMatchSchema_eq_false hfalse
    rw [Predicate.truthAt_of_isSchemaTest hrow htest, hfalse]
  | true =>
    replace hfalse : p.negated.mightMatchSchema x.schema = false := hfalse
    have htest : (predicate p).isSchemaTest := by
      simpa using Predicate.isSchemaTest_of_mightMatchSchema_eq_false hfalse
    rw [Predicate.truthAt_of_isSchemaTest hrow htest, hexact p hp hfalse]

theorem Expr.mask_of_mightMatchSchema_eq_false {e r : Expr} {x : Slice} (hproper : e.IsProper)
    (hpos : e.IsPositive) (h : e.mightMatchSchema x.schema = false)
    (hr : e.resolve x.schema = .ok r) : r.mask x = List.replicate x.rows false :=
  mask_of_exact_exclusion hproper (fun _ hp => nomatch hpos.sign_eq hp) h hr

end EventFilter
