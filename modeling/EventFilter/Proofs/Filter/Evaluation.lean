import EventFilter.Proofs.Expr.Binding
import EventFilter.Proofs.Filter.Calls
import EventFilter.Proofs.Filter.MetadataPruning
import EventFilter.Proofs.Table.NullFields

/-! Accepted filters do not go wrong. A filter that names no column by its offset can be bound to
every schema, and what is bound to the schema of a slice has a truth for every row of it. Diagnostics
are left only of fields of nulls alone that are within records. -/

namespace EventFilter

namespace Predicate

theorem exists_truths_of_isBoundTo {p : Predicate} {x : Slice} (h : p.IsBoundTo x.schema)
    (hnulls : x.schema.NullsAreTopLevel) : ∃ ts, p.truths (.slice x) = .ok ts := by
  obtain ⟨lhs, op, rhs⟩ := p
  cases rhs with
  | extractor y => cases lhs <;> simp [IsBoundTo] at h
  | literal d =>
    cases lhs with
    | literal a => exact ⟨_, rfl⟩
    | extractor y =>
      cases y with
      | metadata key => exact ⟨_, rfl⟩
      | type t => simp [IsBoundTo] at h
      | field name => simp [IsBoundTo] at h
      | data bound o =>
        obtain ⟨rfl, leaf, hleaf, rfl, -⟩ := h
        obtain ⟨name, hfield⟩ := Schema.field?_of_mem_leaves hleaf
        obtain ⟨c, hc, -⟩ := Slice.column?_of_field? hfield
        have hcolumn := (Slice.column_eq_ok_iff_of_nullsAreTopLevel hnulls).mpr hc
        exact ⟨c.test op d, by simp [truths, form, Extractor.truths, hcolumn]⟩

end Predicate

namespace Expr

variable {e q : Expr} {x : Slice}

theorem diagnostics_of_isBound (h : e.IsBound x.schema) (hnulls : x.schema.NullsAreTopLevel) :
    e.diagnostics (.slice x) = [] := by
  refine List.filterMap_eq_nil_iff.mpr fun p hp => ?_
  obtain ⟨ts, hts⟩ := Predicate.exists_truths_of_isBoundTo (h.leaves p hp) hnulls
  simp only [hts]

theorem mem_leaves_of_mem_conjuncts {c : Expr} {p : Predicate} (hc : c ∈ e.conjuncts)
    (hp : p ∈ c.leaves) : p ∈ e.leaves := by
  rcases conjuncts_cases e with ⟨es, rfl, hes⟩ | hes
  · rw [hes] at hc
    exact mem_leaves_group.mpr ⟨c, hc, hp⟩
  · rw [hes, List.mem_singleton] at hc
    exact hc ▸ hp

theorem mem_leaves_of_withoutSchemaTests (h : e.withoutSchemaTests = some q) {p : Predicate}
    (hp : p ∈ q.leaves) : p ∈ e.leaves := by
  rw [withoutSchemaTests_eq] at h
  split at h
  · simp at h
  · obtain rfl := Option.some.inj h
    rw [leaves_join] at hp
    obtain ⟨c, hc, hp⟩ := List.mem_flatMap.mp hp
    exact mem_leaves_of_mem_conjuncts (List.mem_filter.mp hc).1 hp

end Expr

namespace Filter

variable {e : Expr} {config : FilterConfig} {f : Filter}

theorem isBindable_of_create (h : create e config = .ok f) (he : ∀ p ∈ e.leaves, p.IsUnbound) :
    ∀ p ∈ e.normalize.leaves, p.IsBindable := by
  intro p hp
  have hvalid := Expr.validate_of_mem_leaves (create_eq_ok_iff.mp h).valid hp
  have haligned := (Expr.isNormal_normalize e).aligned p hp
  obtain ⟨q, hq, rfl | rfl⟩ := Expr.mem_leaves_normalize hp
  · exact ⟨hvalid, Predicate.isUnbound_aligned (he q hq), haligned⟩
  · exact ⟨hvalid, Predicate.isUnbound_aligned (Predicate.isUnbound_negated (he q hq)), haligned⟩

/-- Both the expression and what is left of it to evaluate are bound. -/
theorem exists_bind_of_create (h : create e config = .ok f) (he : ∀ p ∈ e.leaves, p.IsUnbound)
    (s : Schema) :
    ∃ r, f.bind s = .ok r ∧ r.expr.IsBound s ∧ ∀ q, r.residual = some q → q.IsBound s := by
  have hcreated := create_eq_ok_iff.mp h
  have hbindable := isBindable_of_create h he
  obtain ⟨bound, hbound, hisBound⟩ := Expr.exists_isBound hbindable s
  have hexpr : f.expr.resolve s = .ok bound := by rw [hcreated.expr_eq, hbound]
  cases hresidual : f.residual with
  | none =>
    refine ⟨⟨bound, none⟩, ?_, hisBound, by simp⟩
    rw [bind_eq_ok_iff, hresidual]
    exact ⟨hexpr, trivial⟩
  | some rest =>
    have hkept : ∀ p ∈ rest.leaves, p ∈ e.normalize.leaves := by
      intro p hp
      rw [hcreated.residual_eq] at hresidual
      by_cases hprune : config.pruneMetadata
      · rw [if_pos hprune] at hresidual
        exact Expr.mem_leaves_of_withoutSchemaTests hresidual hp
      · rw [if_neg hprune] at hresidual
        obtain rfl : e.normalize = rest := Option.some.inj hresidual
        exact hp
    obtain ⟨q, hq, hrest⟩ := Expr.exists_isBound (fun p hp => hbindable p (hkept p hp)) s
    refine ⟨⟨bound, some q⟩, ?_, hisBound, ?_⟩
    · rw [bind_eq_ok_iff, hresidual]
      exact ⟨hexpr, hq⟩
    · intro q' hq'
      obtain rfl : q = q' := Option.some.inj hq'
      exact hrest

theorem evaluate_of_isBound {r : Resolution} {x : Slice}
    (h : ∀ q, r.residual = some q → q.IsBound x.schema) :
    ∃ mask ds, r.evaluate x = ⟨mask, ds⟩ ∧ mask.length = x.rows ∧
      (x.schema.NullsAreTopLevel → ds = []) := by
  unfold Resolution.evaluate
  split
  · exact ⟨_, [], rfl, by simp, fun _ => rfl⟩
  · exact ⟨_, [], rfl, by simp, fun _ => rfl⟩
  · rename_i q _ hq
    exact ⟨q.mask x, _, rfl, q.length_mask x, Expr.diagnostics_of_isBound (h q hq)⟩

/-- The answer to a call that goes well: an expression bound to the schema, a verdict, or a mask with
an entry for each row. With the mask there are no diagnostics, unless the schema has fields of nulls
alone within records. -/
def Answer.GoesWell : Call → Answer → Prop
  | .resolve s, .expr r => ∃ bound, r = .ok bound ∧ bound.IsBound s
  | .mightMatch _, .verdict r => ∃ verdict, r = .ok verdict
  | .evaluate x, .evaluation r => ∃ mask ds, r = .ok ⟨mask, ds⟩ ∧ mask.length = x.rows ∧
      (x.schema.NullsAreTopLevel → ds = [])
  | _, _ => False

theorem call_goesWell (h : create e config = .ok f) (he : ∀ p ∈ e.leaves, p.IsUnbound) (c : Call) :
    (f.call c).1.GoesWell c := by
  have hfresh : f.resolved = [] := (create_eq_ok_iff.mp h).resolved_eq
  obtain ⟨r, hbind, hexpr, hresidual⟩ := exists_bind_of_create h he c.schema
  have hresolution : (f.resolution c.schema).result = .ok r := by
    rw [result_resolution_of_fresh hfresh, hbind]
  cases c with
  | resolve s =>
    simp only [Call.schema] at hresolution
    refine ⟨r.expr, ?_, hexpr⟩
    simp only [resolve, hresolution, Except.map]
  | mightMatch part =>
    simp only [Call.schema] at hresolution
    simp only [call, Answer.GoesWell, mightMatch]
    cases f.config.pruning with
    | disabled => exact ⟨_, rfl⟩
    | schemaOnly => exact ⟨_, rfl⟩
    | auto =>
      by_cases hmight : f.expr.mightMatchSchema part.schema
      · simp only [hmight, if_true, hresolution]
        exact ⟨_, rfl⟩
      · simp only [hmight]
        exact ⟨_, rfl⟩
  | evaluate x =>
    simp only [Call.schema] at hbind hresidual
    simp only [call, Answer.GoesWell, result_evaluate_of_fresh hfresh x, hbind]
    by_cases hmight : f.expr.mightMatchSchema x.schema
    · obtain ⟨mask, ds, hmask, hrows⟩ := evaluate_of_isBound hresidual
      exact ⟨mask, ds, by rw [if_pos hmight, Except.map, hmask], hrows⟩
    · exact ⟨_, [], if_neg hmight, by simp, fun _ => rfl⟩

/-- A field of records and a field beside it end in one name. -/
def flowSchema : Schema :=
  ⟨"flow", [("peer", .record [("port", .scalar .uint64)]), ("port", .scalar .uint64)], []⟩

def flowSlice : Slice where
  schema := flowSchema
  batch :=
    { rows := 2
      columns :=
        [("peer", ⟨.struct [("port", .uint64, true)],
          [.record true [.uint64 443], .record false [.uint64 80]]⟩),
         ("port", ⟨.uint64, [.uint64 22, .null]⟩)]
      rectangular := by decide
      typed := by decide }
  accepted := by decide

def flowExpr : Expr :=
  .negation (.group .any
    [.predicate ⟨.extractor (.metadata .schema), .notEqual, .literal (.string "flow")⟩,
     .predicate ⟨.literal (.uint64 80), .greater, .extractor (.field "port")⟩])

def flowFilter : Filter :=
  ⟨{ pruneMetadata := true }, flowExpr.normalize, flowExpr.normalize.withoutSchemaTests, []⟩

def flowCalls : List Call :=
  [.evaluate flowSlice, .resolve portSchema, .mightMatch (.start flowSchema {}),
    .evaluate flowSlice]

end Filter

end EventFilter
