import EventFilter.Proofs.Eval.SchemaMatch
import EventFilter.Proofs.Filter.Creation

/-! Filters that leave the conjuncts on the schema to the schema check, against filters that
evaluate them. The two select the same rows unless all other conjuncts resolve to nothing: then
the one selects no row, and the other every row of a schema that passes the check. -/

namespace EventFilter

namespace Expr

variable {e r : Expr} {es rs rest : List Expr} {s : Schema} {v : Predicate → Truth}

theorem withoutSchemaTests_eq (e : Expr) : e.withoutSchemaTests =
    match e.conjuncts.filter (!·.isSchemaTest) with
    | [] => none
    | rest => some (join .all rest) := by
  match e with
  | group .all es => rfl
  | group .any es => rfl
  | empty => rfl
  | negation e => rfl
  | predicate p =>
    cases hp : (predicate p).isSchemaTest with
    | true => simp [withoutSchemaTests, conjuncts, hp]
    | false => simp [withoutSchemaTests, conjuncts, hp, join]

/-- Conjuncts that are true make no difference to those that are kept. -/
theorem fold_resolveAll_filter (hall : resolveAll s es = .ok rs)
    (hrest : resolveAll s (es.filter (!·.isSchemaTest)) = .ok rest)
    (htrue : ∀ e ∈ es, e.isSchemaTest → e.meaning v = some true) :
    Connective.all.fold (rs.map (·.meaning v)) = Connective.all.fold (rest.map (·.meaning v)) := by
  have hsub : ∀ r ∈ rest, r ∈ rs := by
    intro r hr
    obtain ⟨hne, e, he, hres⟩ := (mem_resolveAll_iff hrest).mp hr
    exact (mem_resolveAll_iff hall).mpr ⟨hne, e, (List.mem_filter.mp he).1, hres⟩
  have hcases : ∀ r ∈ rs, r.meaning v = some true ∨ r ∈ rest := by
    intro r hr
    obtain ⟨hne, e, he, hres⟩ := (mem_resolveAll_iff hall).mp hr
    by_cases htest : e.isSchemaTest
    · have hsame := (resolve_of_isSchemaTest (s := s) htest).1
      obtain rfl : e = r := Except.ok.inj (hsame.symm.trans hres)
      exact .inl (htrue e he htest)
    · have hkept : e ∈ es.filter (!·.isSchemaTest) := List.mem_filter.mpr ⟨he, by simpa using htest⟩
      exact .inr ((mem_resolveAll_iff hrest).mpr ⟨hne, e, hkept, hres⟩)
  refine Truth.eq_of_iff ?_ ?_
  · simp only [Connective.fold_all_eq_true_iff, List.forall_mem_map]
    constructor
    · intro h r hr
      exact h r (hsub r hr)
    · intro h r hr
      exact (hcases r hr).elim id (h r)
  · simp only [Connective.fold_all_eq_false_iff, List.mem_map]
    constructor
    · rintro ⟨r, hr, hfalse⟩
      rcases hcases r hr with htrue | hr
      · simp [hfalse] at htrue
      · exact ⟨r, hr, hfalse⟩
    · rintro ⟨r, hr, hfalse⟩
      exact ⟨r, hsub r hr, hfalse⟩

theorem meaning_of_mem_conjuncts {x : Slice} {row : Nat} (hrow : row < x.rows)
    (h : e.mightMatchSchema x.schema) {c : Expr} (hc : c ∈ e.conjuncts) (htest : c.isSchemaTest) :
    c.meaning (Predicate.truthAt (.slice x) row) = some true := by
  have hmight : c.mightMatchSchema x.schema := by
    rcases conjuncts_cases e with ⟨es, rfl, hes⟩ | hes
    · rw [hes] at hc
      by_cases hno : c.mightMatchSchema x.schema
      · exact hno
      · have hall := mayHold_all_eq_false_iff.mpr ⟨c, hc, by simpa [mightMatchSchema] using hno⟩
        simp only [mightMatchSchema, hall] at h
        exact absurd h (by simp)
    · rw [hes, List.mem_singleton] at hc
      exact hc ▸ h
  cases c with
  | predicate p =>
    rw [meaning_predicate, Predicate.truthAt_of_isSchemaTest hrow htest]
    exact congrArg some hmight
  | _ => simp [isSchemaTest] at htest

/-- Some conjunct is a test of the schema, and the others, of which there are some, all resolve
to nothing. -/
def OnlySchemaApplies (s : Schema) (e : Expr) : Prop :=
  (∃ c ∈ e.conjuncts, c.isSchemaTest) ∧ (∃ c ∈ e.conjuncts, c.isSchemaTest = false) ∧
    ∀ c ∈ e.conjuncts, c.isSchemaTest = false → c.resolve s = .ok .empty

theorem resolveAll_filter_eq_nil_iff (h : resolveAll s (es.filter (!·.isSchemaTest)) = .ok rest) :
    rest = [] ↔ ∀ c ∈ es, c.isSchemaTest = false → c.resolve s = .ok empty := by
  constructor
  · rintro rfl c hc htest
    have hkept : c ∈ es.filter (!·.isSchemaTest) := List.mem_filter.mpr ⟨hc, by simp [htest]⟩
    obtain ⟨r, hr, hempty⟩ := exists_resolve_of_mem h hkept
    rw [hr, hempty.resolve_right (by simp)]
  · intro hall
    refine List.eq_nil_iff_forall_not_mem.mpr fun r hr => ?_
    obtain ⟨hne, c, hc, hres⟩ := (mem_resolveAll_iff h).mp hr
    obtain ⟨hc, htest⟩ := List.mem_filter.mp hc
    exact hne (Except.ok.inj (hres.symm.trans (hall c hc (by simpa using htest))))

theorem mask_empty (x : Slice) : empty.mask x = List.replicate x.rows false :=
  mask_eq_replicate fun _ _ => rfl

theorem mask_join_congr {x : Slice} (hrs : rs ≠ []) (hrest : rest ≠ [])
    (h : ∀ row < x.rows,
      Connective.all.fold (rs.map (·.meaning (Predicate.truthAt (.slice x) row))) =
        Connective.all.fold (rest.map (·.meaning (Predicate.truthAt (.slice x) row)))) :
    (join .all rs).mask x = (join .all rest).mask x := by
  rw [mask_eq_map, mask_eq_map]
  refine List.map_congr_left fun row hrow => ?_
  rw [meaning_join hrs, meaning_join hrest, h row (List.mem_range.mp hrow)]

/-! On a slice of a schema that passes all tests, the rows of all conjuncts are compared with those
of what is left without the tests. -/

section

variable {x : Slice} (h : e.mightMatchSchema x.schema)
  (hall : resolveAll x.schema e.conjuncts = .ok rs)
  (hrest : resolveAll x.schema (e.conjuncts.filter (!·.isSchemaTest)) = .ok rest)

include h hall hrest

theorem fold_row_eq {row : Nat} (hrow : row < x.rows) :
    Connective.all.fold (rs.map (·.meaning (Predicate.truthAt (.slice x) row))) =
      Connective.all.fold (rest.map (·.meaning (Predicate.truthAt (.slice x) row))) :=
  fold_resolveAll_filter hall hrest fun _ hc => meaning_of_mem_conjuncts hrow h hc

theorem mask_of_rest_nil (hrs : rs ≠ []) (hempty : rest = []) :
    (join .all rs).mask x = List.replicate x.rows true := by
  refine mask_eq_replicate fun row hrow => ?_
  rw [meaning_join hrs, fold_row_eq h hall hrest hrow, hempty]
  rfl

omit h hrest in
theorem ne_nil_of_test (htest : ∃ c ∈ e.conjuncts, c.isSchemaTest) : rs ≠ [] := by
  obtain ⟨c, hc, htest⟩ := htest
  obtain ⟨hres, hne⟩ := resolve_of_isSchemaTest (s := x.schema) htest
  exact List.ne_nil_of_mem ((mem_resolveAll_iff hall).mpr ⟨hne, c, hc, hres⟩)

theorem mask_of_onlySchemaApplies (honly : e.OnlySchemaApplies x.schema) :
    (join .all rs).mask x = List.replicate x.rows true ∧
      (join .all rest).mask x = List.replicate x.rows false := by
  obtain ⟨htest, -, hothers⟩ := honly
  obtain rfl : rest = [] := (resolveAll_filter_eq_nil_iff hrest).mpr hothers
  exact ⟨mask_of_rest_nil h hall hrest (ne_nil_of_test hall htest) rfl, mask_empty x⟩

theorem mask_of_not_onlySchemaApplies (hproper : e.IsProper)
    (hnot : ¬ e.OnlySchemaApplies x.schema) : (join .all rs).mask x =
      if e.conjuncts.filter (!·.isSchemaTest) = [] then List.replicate x.rows true
      else (join .all rest).mask x := by
  by_cases htest : ∃ c ∈ e.conjuncts, c.isSchemaTest
  · have hrs : rs ≠ [] := ne_nil_of_test hall htest
    by_cases hempty : rest = []
    · have hkept : e.conjuncts.filter (!·.isSchemaTest) = [] := by
        refine List.filter_eq_nil_iff.mpr fun c hc hother => hnot ?_
        exact ⟨htest, ⟨c, hc, by simpa using hother⟩,
          (resolveAll_filter_eq_nil_iff hrest).mp hempty⟩
      rw [if_pos hkept]
      exact mask_of_rest_nil h hall hrest hrs hempty
    · have hkept : e.conjuncts.filter (!·.isSchemaTest) ≠ [] := by
        intro hkept
        rw [hkept] at hrest
        exact hempty (Except.ok.inj hrest).symm
      rw [if_neg hkept]
      exact mask_join_congr hrs hempty fun row hrow => fold_row_eq h hall hrest hrow
  · have hkept : e.conjuncts.filter (!·.isSchemaTest) = e.conjuncts := by
      refine List.filter_eq_self.mpr fun c hc => ?_
      cases hc' : c.isSchemaTest with
      | true => exact absurd ⟨c, hc, hc'⟩ htest
      | false => rfl
    rw [hkept] at hrest ⊢
    obtain rfl : rs = rest := Except.ok.inj (hall.symm.trans hrest)
    rw [if_neg (conjuncts_ne_nil hproper)]

end

end Expr

namespace Filter

variable {e : Expr} {c : FilterConfig} {f : Filter} {x : Slice} {b : Evaluation}

theorem mask_of_schema_false (h : create e c = .ok f)
    (hno : e.normalize.mightMatchSchema x.schema = false) (hb : (f.evaluate x).result = .ok b) :
    b.mask = List.replicate x.rows false := by
  have hcreated := create_eq_ok_iff.mp h
  rw [result_evaluate_of_fresh hcreated.resolved_eq, hcreated.expr_eq, hno] at hb
  obtain rfl : ⟨List.replicate x.rows false, []⟩ = b := by simpa using hb
  rfl

theorem mask_of_schema_true (h : create e c = .ok f)
    (hmight : e.normalize.mightMatchSchema x.schema = true) (hb : (f.evaluate x).result = .ok b) :
    ∃ r, f.bind x.schema = .ok r ∧ b.mask = (r.evaluate x).mask := by
  have hcreated := create_eq_ok_iff.mp h
  rw [result_evaluate_of_fresh hcreated.resolved_eq, hcreated.expr_eq, hmight, if_pos rfl] at hb
  cases hbind : f.bind x.schema with
  | error err => simp [hbind, Except.map] at hb
  | ok r =>
    obtain rfl : r.evaluate x = b := by simpa [hbind, Except.map] using hb
    exact ⟨r, rfl, rfl⟩

/-- Without metadata pruning the mask is that of all conjuncts. -/
theorem mask_of_plain (h : create e c = .ok f) (hc : c.pruneMetadata = false)
    (hmight : e.normalize.mightMatchSchema x.schema = true) (hb : (f.evaluate x).result = .ok b) :
    ∃ rs, Expr.resolveAll x.schema e.normalize.conjuncts = .ok rs ∧
      b.mask = (Expr.join .all rs).mask x := by
  obtain ⟨r, hbind, hmask⟩ := mask_of_schema_true h hmight hb
  rw [bind_of_plain h hc] at hbind
  cases hq : e.normalize.resolve x.schema with
  | error err => simp [hq, Except.map] at hbind
  | ok q =>
    obtain rfl : ⟨q, some q⟩ = r := by simpa [hq, Except.map] using hbind
    obtain ⟨rs, hrs, rfl⟩ := Expr.resolve_conjuncts_eq_ok hq
    exact ⟨rs, hrs, hmask.trans (mask_evaluate_of_residual rfl x)⟩

/-- With it, the mask is that of the conjuncts that are no tests of the schema, if there are
any. -/
theorem mask_of_pruned (h : create e c = .ok f) (hc : c.pruneMetadata = true)
    (hmight : e.normalize.mightMatchSchema x.schema = true) (hb : (f.evaluate x).result = .ok b) :
    ∃ rest, Expr.resolveAll x.schema (e.normalize.conjuncts.filter (!·.isSchemaTest)) = .ok rest ∧
      b.mask = if e.normalize.conjuncts.filter (!·.isSchemaTest) = [] then
        List.replicate x.rows true else (Expr.join .all rest).mask x := by
  have hcreated := create_eq_ok_iff.mp h
  obtain ⟨r, hbind, hmask⟩ := mask_of_schema_true h hmight hb
  have hresidual : f.residual = e.normalize.withoutSchemaTests := by
    simp [hcreated.residual_eq, hc]
  obtain ⟨hexpr, hres⟩ := bind_eq_ok_iff.mp hbind
  rw [hresidual, Expr.withoutSchemaTests_eq] at hres
  cases hkept : e.normalize.conjuncts.filter (!·.isSchemaTest) with
  | nil =>
    rw [hkept] at hres
    cases hq : r.residual with
    | none => exact ⟨[], rfl, by simp [hmask, Resolution.evaluate, hq]⟩
    | some q => simp [hq] at hres
  | cons first others =>
    rw [hkept] at hres
    cases hq : r.residual with
    | none => simp [hq] at hres
    | some q =>
      obtain ⟨rest, hrest, rfl⟩ := Expr.resolve_join_eq_ok (by simpa [hq] using hres)
      refine ⟨rest, hrest, ?_⟩
      rw [hmask, mask_evaluate_of_residual hq x, if_neg (by simp)]

/-- Metadata pruning selects other rows exactly where a schema passes the check, has rows, and
nothing but the tests of the schema applies to it: then it selects none of them instead of all. -/
theorem metadata_pruning_changes_mask_iff {on off : FilterConfig} {pruned plain : Filter}
    {a : Evaluation} (hpruned : create e on = .ok pruned) (hplain : create e off = .ok plain)
    (hon : on.pruneMetadata = true) (hoff : off.pruneMetadata = false)
    (ha : (pruned.evaluate x).result = .ok a) (hb : (plain.evaluate x).result = .ok b) :
    (a.mask ≠ b.mask ↔ 0 < x.rows ∧ e.normalize.mightMatchSchema x.schema ∧
      e.normalize.OnlySchemaApplies x.schema) ∧
    (a.mask ≠ b.mask →
      a.mask = List.replicate x.rows false ∧ b.mask = List.replicate x.rows true) := by
  cases hmight : e.normalize.mightMatchSchema x.schema with
  | false => simp [mask_of_schema_false hpruned hmight ha, mask_of_schema_false hplain hmight hb]
  | true =>
    obtain ⟨rest, hrest, hamask⟩ := mask_of_pruned hpruned hon hmight ha
    obtain ⟨rs, hall, hbmask⟩ := mask_of_plain hplain hoff hmight hb
    by_cases h : e.normalize.OnlySchemaApplies x.schema
    · have hkept : e.normalize.conjuncts.filter (!·.isSchemaTest) ≠ [] := by
        obtain ⟨c, hc, hother⟩ := h.2.1
        exact List.ne_nil_of_mem (List.mem_filter.mpr ⟨hc, by simp [hother]⟩)
      obtain ⟨hrs, hnone⟩ := Expr.mask_of_onlySchemaApplies hmight hall hrest h
      have hfalse : a.mask = List.replicate x.rows false := by rw [hamask, if_neg hkept, hnone]
      have htrue : b.mask = List.replicate x.rows true := hbmask.trans hrs
      refine ⟨?_, fun _ => ⟨hfalse, htrue⟩⟩
      cases hrows : x.rows with
      | zero => simp [hfalse, htrue, hrows]
      | succ n => simp [hfalse, htrue, hrows, List.replicate_succ, h]
    · have hequal := Expr.mask_of_not_onlySchemaApplies hmight hall hrest
        (isProper_of_create hplain) h
      have hsame : a.mask = b.mask := by rw [hamask, hbmask, hequal]
      simp [hsame, h]

def connSlice : Slice where
  schema := ⟨"conn", [("count", .scalar .int64)], []⟩
  batch :=
    { rows := 1
      columns := [("count", ⟨.int64, [.int64 1]⟩)]
      rectangular := by decide
      typed := by decide }
  accepted := by decide

/-- The field is not in the schema, which is the one asked for. -/
def absentFieldExpr : Expr :=
  .group .all [.predicate ⟨.extractor (.metadata .schema), .equal, .literal (.string "conn")⟩,
    .predicate ⟨.extractor (.field "missing"), .equal, .literal (.int64 5)⟩]

theorem metadata_pruning_loses_conn_row : ∃ pruned plain a b,
    create absentFieldExpr { pruneMetadata := true } = .ok pruned ∧
      create absentFieldExpr {} = .ok plain ∧
      (pruned.evaluate connSlice).result = .ok a ∧ (plain.evaluate connSlice).result = .ok b ∧
      a.mask = [false] ∧ b.mask = [true] ∧
      absentFieldExpr.normalize.OnlySchemaApplies connSlice.schema := by
  let pruned : Filter := ⟨{ pruneMetadata := true }, absentFieldExpr.normalize,
    absentFieldExpr.normalize.withoutSchemaTests, []⟩
  let plain : Filter := ⟨{}, absentFieldExpr.normalize, some absentFieldExpr.normalize, []⟩
  have hpruned : create absentFieldExpr { pruneMetadata := true } = .ok pruned := by rfl
  have hplain : create absentFieldExpr {} = .ok plain := by rfl
  have ha : (pruned.evaluate connSlice).result = .ok ⟨[false], []⟩ := by rfl
  have hb : (plain.evaluate connSlice).result = .ok ⟨[true], []⟩ := by rfl
  obtain ⟨hiff, hmasks⟩ := metadata_pruning_changes_mask_iff hpruned hplain rfl rfl ha hb
  have hne : [false] ≠ [true] := by decide
  exact ⟨pruned, plain, _, _, hpruned, hplain, ha, hb, (hmasks hne).1, (hmasks hne).2,
    (hiff.mp hne).2.2⟩

end Filter

end EventFilter
