import EventFilter.Filter.Basic
import EventFilter.Proofs.Expr.Validity

/-! Filters as they are created: a valid normal form without negations, nothing resolved yet. -/

namespace EventFilter.Filter

variable {e : Expr} {config : FilterConfig} {f : Filter}

/-- Everything that is known of a filter before its first use. -/
structure CreatedFrom (f : Filter) (e : Expr) (config : FilterConfig) : Prop where
  valid : e.normalize.validate = .ok ()
  config_eq : f.config = config.effective
  expr_eq : f.expr = e.normalize
  residual_eq : f.residual =
    if config.pruneMetadata then e.normalize.withoutSchemaTests else some e.normalize
  resolved_eq : f.resolved = []

theorem pruneMetadata_effective (config : FilterConfig) :
    config.effective.pruneMetadata = config.pruneMetadata := by
  unfold FilterConfig.effective
  split <;> rfl

theorem create_eq_ok_iff : create e config = .ok f ↔ f.CreatedFrom e config := by
  obtain ⟨fconfig, fexpr, fresidual, fresolved⟩ := f
  cases hvalid : e.normalize.validate with
  | error err =>
    constructor
    · intro h
      simp [create, hvalid] at h
    · intro h
      have := h.valid
      simp [hvalid] at this
  | ok u =>
    constructor
    · intro h
      simp only [create, hvalid, pruneMetadata_effective, Except.ok.injEq, Filter.mk.injEq] at h
      obtain ⟨hconfig, hexpr, hresidual, hresolved⟩ := h
      exact ⟨hvalid, hconfig.symm, hexpr.symm, hresidual.symm, hresolved.symm⟩
    · rintro ⟨-, hconfig, hexpr, hresidual, hresolved⟩
      simp only at hconfig hexpr hresidual hresolved
      simp only [create, hvalid, pruneMetadata_effective, hconfig, hexpr, hresidual, hresolved]

/-- Filters are made of the expressions with nothing empty and nothing invalid in them. -/
theorem exists_create_iff : (∃ f, create e config = .ok f) ↔ e.IsSound := by
  rw [← Expr.validate_normalize_eq_ok_iff]
  constructor
  · rintro ⟨f, hf⟩
    exact (create_eq_ok_iff.mp hf).valid
  · intro hvalid
    have hcreated : CreatedFrom ⟨config.effective, e.normalize, _, []⟩ e config :=
      ⟨hvalid, rfl, rfl, rfl, rfl⟩
    exact ⟨_, create_eq_ok_iff.mpr hcreated⟩

theorem isProper_of_create (h : create e config = .ok f) : e.normalize.IsProper :=
  Expr.isProper_of_validate (create_eq_ok_iff.mp h).valid (Expr.isInhabited_normalize e)

/-- With no resolution kept, a schema is bound anew. -/
theorem result_resolution_of_fresh (h : f.resolved = []) (s : Schema) :
    (f.resolution s).result = f.bind s := by
  simp only [resolution, h, List.lookup_nil]
  cases f.bind s <;> rfl

theorem result_evaluate_of_fresh (h : f.resolved = []) (x : Slice) :
    (f.evaluate x).result =
      if f.expr.mightMatchSchema x.schema then (f.bind x.schema).map (·.evaluate x)
      else .ok ⟨List.replicate x.rows false, []⟩ := by
  unfold evaluate
  split
  · rw [← result_resolution_of_fresh h]
  · rfl

/-- A successful binding resolves the expression, and the residual if there is one. -/
theorem bind_eq_ok_iff {s : Schema} {r : Resolution} :
    f.bind s = .ok r ↔ f.expr.resolve s = .ok r.expr ∧
      match f.residual, r.residual with
      | none, none => True
      | some e, some q => e.resolve s = .ok q
      | _, _ => False := by
  obtain ⟨expr, residual⟩ := r
  unfold bind
  cases hexpr : f.expr.resolve s with
  | error err => simp
  | ok q =>
    cases hresidual : f.residual with
    | none => cases residual <;> simp
    | some e =>
      by_cases he : e = f.expr
      · cases residual <;> simp [he, hexpr]
      · cases hq : e.resolve s <;> cases residual <;> simp [he, hq]

/-- Without metadata pruning a schema is bound by one resolution, which is evaluated as it is. -/
theorem bind_of_plain (h : create e config = .ok f) (hoff : config.pruneMetadata = false)
    (s : Schema) : f.bind s = (e.normalize.resolve s).map fun q => ⟨q, some q⟩ := by
  have hcreated := create_eq_ok_iff.mp h
  have hresidual : f.residual = some f.expr := by
    simp [hcreated.residual_eq, hcreated.expr_eq, hoff]
  unfold bind
  rw [hresidual, hcreated.expr_eq]
  cases e.normalize.resolve s with
  | error err => rfl
  | ok q => simp [Except.map]

theorem mask_evaluate_of_residual {r : Resolution} {q : Expr} (h : r.residual = some q)
    (x : Slice) : (r.evaluate x).mask = q.mask x := by
  unfold Resolution.evaluate
  rw [h]
  cases q with
  | empty => simp [Expr.mask, Expr.truths, Input.rows, Truth.holds]
  | _ => rfl

end EventFilter.Filter
