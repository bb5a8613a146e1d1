import EventFilter.Proofs.Eval.SchemaMatch
import EventFilter.Proofs.Filter.Creation
import EventFilter.Proofs.Schema.Identity

/-! Sequences of calls of one filter. Whatever was called before, a filter answers as a new one
does, as long as the digest tells the schemas of the calls apart; and a new one answers as
normalization, resolution, matching and evaluation do in turn. -/

namespace EventFilter

/-- The verdict on an expression that a policy asks for. -/
def Pruning.verdict (e : Expr) (part : Partition) : Pruning → Except ResolveError Bool
  | auto => e.mightMatch part
  | schemaOnly => .ok (e.mightMatchSchema part.schema)
  | disabled => .ok true

namespace Filter

inductive Call where
  | resolve (s : Schema)
  | mightMatch (part : Partition)
  | evaluate (x : Slice)

def Call.schema : Call → Schema
  | resolve s => s
  | mightMatch part => part.schema
  | evaluate x => x.schema

inductive Answer where
  | expr (r : Except ResolveError Expr)
  | verdict (r : Except ResolveError Bool)
  | evaluation (r : Except ResolveError Evaluation)

def call (f : Filter) : Call → Answer × Filter
  | .resolve s => (.expr (f.resolve s).result, (f.resolve s).filter)
  | .mightMatch part => (.verdict (f.mightMatch part).result, (f.mightMatch part).filter)
  | .evaluate x => (.evaluation (f.evaluate x).result, (f.evaluate x).filter)

/-- The calls in turn, each with its answer. -/
def trace (f : Filter) : List Call → List (Call × Answer)
  | [] => []
  | c :: rest => (c, (f.call c).1) :: trace (f.call c).2 rest

theorem map_fst_trace (f : Filter) (calls : List Call) : (f.trace calls).map Prod.fst = calls := by
  induction calls generalizing f with
  | nil => rfl
  | cons c rest ih => simp [trace, ih]

variable {new f : Filter} {seen : List Schema} {s : Schema}

/-- The filter is a new one that has resolved some of the schemas since, each as the new one
would. -/
structure Remembers (new : Filter) (seen : List Schema) (f : Filter) : Prop where
  config_eq : f.config = new.config
  expr_eq : f.expr = new.expr
  residual_eq : f.residual = new.residual
  kept : ∀ key r, f.resolved.lookup key = some r →
    ∃ s ∈ seen, s.fingerprint = key ∧ new.bind s = .ok r

theorem remembers_new (h : new.resolved = []) : new.Remembers [] new :=
  ⟨rfl, rfl, rfl, fun key r hr => by simp [h] at hr⟩

theorem Remembers.mono (h : new.Remembers seen f) (s : Schema) : new.Remembers (s :: seen) f := by
  refine ⟨h.config_eq, h.expr_eq, h.residual_eq, fun key r hr => ?_⟩
  obtain ⟨u, hu, hkey, hbind⟩ := h.kept key r hr
  exact ⟨u, List.mem_cons_of_mem _ hu, hkey, hbind⟩

theorem Remembers.bind (h : new.Remembers seen f) (s : Schema) : f.bind s = new.bind s := by
  simp only [Filter.bind, h.expr_eq, h.residual_eq]

theorem Remembers.resolution (h : new.Remembers seen f)
    (hsep : ∀ u ∈ seen, u.fingerprint = s.fingerprint → u = s) :
    (f.resolution s).result = new.bind s ∧
      new.Remembers (s :: seen) (f.resolution s).filter := by
  unfold Filter.resolution
  cases hlookup : f.resolved.lookup s.fingerprint with
  | some r =>
    obtain ⟨u, hu, hkey, hbind⟩ := h.kept _ _ hlookup
    obtain rfl : u = s := hsep u hu hkey
    exact ⟨hbind.symm, h.mono u⟩
  | none =>
    rw [h.bind s]
    cases hbind : new.bind s with
    | error err => exact ⟨rfl, h.mono s⟩
    | ok r =>
      refine ⟨rfl, h.config_eq, h.expr_eq, h.residual_eq, fun key q hq => ?_⟩
      by_cases hkey : key = s.fingerprint
      · subst hkey
        obtain rfl : r = q := by simpa using hq
        exact ⟨s, by simp, rfl, hbind⟩
      · have hkept : f.resolved.lookup key = some q := by
          have hne : (key == s.fingerprint) = false := by simpa using hkey
          simpa [List.lookup_cons, hne] using hq
        obtain ⟨u, hu, hfingerprint, hbind⟩ := h.kept key q hkept
        exact ⟨u, List.mem_cons_of_mem _ hu, hfingerprint, hbind⟩

/-- Every call keeps the filter in order and has the answer of a new one. -/
theorem Remembers.call (hnew : new.resolved = []) (h : new.Remembers seen f) (c : Call)
    (hsep : ∀ u ∈ seen, u.fingerprint = c.schema.fingerprint → u = c.schema) :
    (f.call c).1 = (new.call c).1 ∧ new.Remembers (c.schema :: seen) (f.call c).2 := by
  obtain ⟨hresult, hkept⟩ := h.resolution hsep
  have hfresh := result_resolution_of_fresh hnew c.schema
  cases c with
  | resolve s =>
    simp only [Call.schema] at hresult hkept hfresh
    refine ⟨?_, hkept⟩
    simp only [Filter.call, Filter.resolve, hresult, hfresh]
  | mightMatch part =>
    simp only [Call.schema] at hresult hkept hfresh
    simp only [Filter.call, Filter.mightMatch, h.config_eq, h.expr_eq]
    cases new.config.pruning with
    | disabled => exact ⟨rfl, h.mono part.schema⟩
    | schemaOnly => exact ⟨rfl, h.mono part.schema⟩
    | auto =>
      by_cases hmight : new.expr.mightMatchSchema part.schema
      · simp only [hmight, if_true, hresult, hfresh]
        cases new.bind part.schema with
        | error err => exact ⟨rfl, hkept⟩
        | ok r => exact ⟨rfl, hkept⟩
      · simp only [hmight]
        exact ⟨rfl, h.mono part.schema⟩
  | evaluate x =>
    simp only [Call.schema] at hresult hkept hfresh
    simp only [Filter.call, Filter.evaluate, h.expr_eq]
    by_cases hmight : new.expr.mightMatchSchema x.schema
    · refine ⟨?_, by simpa only [hmight, if_true, Call.schema] using hkept⟩
      simp only [hmight, if_true, hresult, hfresh]
    · simp only [hmight]
      exact ⟨rfl, h.mono x.schema⟩

def Call.texts (calls : List Call) : List String :=
  calls.map fun c => c.schema.toType.canonicalText

theorem Remembers.trace (hnew : new.resolved = []) (h : new.Remembers seen f) (calls : List Call)
    {texts : List String} (hsep : Digest.Separates texts)
    (hseen : ∀ s ∈ seen, s.toType.canonicalText ∈ texts)
    (hcalls : ∀ c ∈ calls, c.schema.toType.canonicalText ∈ texts) :
    ∀ t ∈ f.trace calls, t.2 = (new.call t.1).1 := by
  induction calls generalizing f seen with
  | nil => simp [Filter.trace]
  | cons c rest ih =>
    have hc := hcalls c (by simp)
    obtain ⟨hanswer, hkept⟩ := h.call hnew c fun u hu =>
      Schema.fingerprint_injective hsep (hseen u hu) hc
    have hrest := ih hkept (List.forall_mem_cons.mpr ⟨hc, hseen⟩)
      fun d hd => hcalls d (List.mem_cons_of_mem _ hd)
    exact List.forall_mem_cons.mpr ⟨hanswer, hrest⟩

/-! ### The answers of a new filter -/

/-- The answer is what normalization, resolution, matching and evaluation give in turn. Where the
normal form does not resolve, an evaluation fails alike, unless the schema check decides it. -/
def Answer.Meets (policy : Pruning) (e : Expr) : Call → Answer → Prop
  | .resolve s, .expr r => r = e.resolve s
  | .mightMatch part, .verdict r => r = policy.verdict e part
  | .evaluate x, .evaluation r =>
    match e.resolve x.schema with
    | .ok bound => ∃ a, r = .ok a ∧ a.mask = bound.mask x
    | .error err => r = .error err ∨
      e.mightMatchSchema x.schema = false ∧ ∃ a, r = .ok a ∧ a.mask = List.replicate x.rows false
  | _, _ => False

variable {e : Expr} {config : FilterConfig}

theorem call_meets_pipeline (h : create e config = .ok f) (hoff : config.pruneMetadata = false)
    (c : Call) : (f.call c).1.Meets config.effective.pruning e.normalize c := by
  have hcreated := create_eq_ok_iff.mp h
  have hbind := bind_of_plain h hoff
  have hfresh := result_resolution_of_fresh hcreated.resolved_eq
  cases c with
  | resolve s =>
    simp only [call, Answer.Meets, resolve, hfresh, hbind]
    cases e.normalize.resolve s <;> rfl
  | mightMatch part =>
    simp only [call, Answer.Meets, mightMatch, Pruning.verdict, hcreated.config_eq,
      hcreated.expr_eq]
    cases config.effective.pruning with
    | disabled => rfl
    | schemaOnly => rfl
    | auto =>
      by_cases hmight : e.normalize.mightMatchSchema part.schema
      · simp only [hmight, if_true, hfresh, hbind, Expr.mightMatch]
        cases e.normalize.resolve part.schema <;> rfl
      · simp [hmight, Expr.mightMatch]
  | evaluate x =>
    have hresult := result_evaluate_of_fresh hcreated.resolved_eq x
    rw [hcreated.expr_eq, hbind] at hresult
    simp only [call, Answer.Meets]
    cases hres : e.normalize.resolve x.schema with
    | ok bound =>
      by_cases hmight : e.normalize.mightMatchSchema x.schema
      · rw [if_pos hmight, hres] at hresult
        exact ⟨_, hresult, mask_evaluate_of_residual rfl x⟩
      · rw [if_neg hmight] at hresult
        have hmask := Expr.mask_of_mightMatchSchema_eq_false (isProper_of_create h)
          (Expr.isPositive_normalize e) (by simpa using hmight) hres
        exact ⟨_, hresult, hmask.symm⟩
    | error err =>
      by_cases hmight : e.normalize.mightMatchSchema x.schema
      · rw [if_pos hmight, hres] at hresult
        exact .inl hresult
      · rw [if_neg hmight] at hresult
        exact .inr ⟨by simpa using hmight, _, hresult, rfl⟩

/-- Whatever is called in whatever order, with calls that fail among them: each answer is what
the pipeline gives for that call alone. -/
theorem answers_meet_pipeline (h : create e config = .ok f) (hoff : config.pruneMetadata = false)
    (calls : List Call) (hsep : Digest.Separates (Call.texts calls)) :
    (f.trace calls).map Prod.fst = calls ∧
      ∀ t ∈ f.trace calls, t.2.Meets config.effective.pruning e.normalize t.1 := by
  have hfresh : f.resolved = [] := (create_eq_ok_iff.mp h).resolved_eq
  refine ⟨map_fst_trace f calls, fun t ht => ?_⟩
  have hnew := (remembers_new hfresh).trace hfresh calls hsep (by simp)
    fun c hc => List.mem_map_of_mem hc
  rw [hnew t ht]
  exact call_meets_pipeline h hoff t.1

def portSchema : Schema := ⟨"port", [("number", .scalar .uint64)], []⟩

def portSlice : Slice where
  schema := portSchema
  batch :=
    { rows := 2
      columns := [("number", ⟨.uint64, [.uint64 80, .null]⟩)]
      rectangular := by decide
      typed := by decide }
  accepted := by decide

def portExpr : Expr :=
  .predicate ⟨.literal (.uint64 80), .equal, .extractor (.data portSchema [0])⟩

def portFilter : Filter := ⟨{}, portExpr.normalize, some portExpr.normalize, []⟩

/-- A column of another schema cannot be resolved, so that a call in the middle fails. -/
def portCalls : List Call :=
  [.evaluate portSlice, .resolve ⟨"host", [("name", .scalar .string)], []⟩,
    .mightMatch (.start portSchema (.withSummaries true true)), .evaluate portSlice,
    .resolve portSchema]

theorem port_answers_meet_pipeline : create portExpr {} = .ok portFilter ∧
    Digest.Separates (Call.texts portCalls) ∧
    ∀ t ∈ portFilter.trace portCalls, t.2.Meets .auto portExpr.normalize t.1 := by
  have hcreate : create portExpr {} = .ok portFilter := by rfl
  have hsep : Digest.Separates (Call.texts portCalls) := by decide +kernel
  exact ⟨hcreate, hsep, (answers_meet_pipeline hcreate rfl portCalls hsep).2⟩

end Filter

end EventFilter
