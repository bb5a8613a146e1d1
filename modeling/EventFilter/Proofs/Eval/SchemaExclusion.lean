import EventFilter.Proofs.Eval.SchemaMatch

/-! When a verdict against a schema is false. Under a negation the verdict asks for the negated
operator, and the evaluation for the complement of the operator's answer. These agree on every test
of the schema that validation admits, but for its orderings against patterns. -/

namespace EventFilter

namespace Predicate

variable {p : Predicate} {s : Schema}

/-- An ordering of the name or the fingerprint of the schema against a pattern. -/
def ordersSchemaByPattern (p : Predicate) : Bool :=
  match p.form with
  | .test _ op (.pattern _) => (Expr.predicate p).isSchemaTest && op.isOrdering
  | _ => false

/-- A test of the schema compares one of its texts, under the negated operator the same text. -/
theorem exists_text_of_isSchemaTest (h : (Expr.predicate p).isSchemaTest) (s : Schema) :
    ∃ key op d text, p.form = .test (.metadata key) op d ∧ key ≠ .importTime ∧
      p.mightMatchSchema s = (Data.string text).holds op d ∧
      p.negated.mightMatchSchema s = (Data.string text).holds op.negate d := by
  obtain ⟨key, op, d, hform, hkey⟩ := exists_form_of_isSchemaTest h
  have hneg : p.negated.form = .test (.metadata key) op.negate d := by
    rw [form_negated, hform]
    rfl
  rcases hkey with rfl | rfl
  · exact ⟨_, op, d, s.name, hform, by simp, by simp [mightMatchSchema, hform],
      by simp only [mightMatchSchema, hneg]⟩
  · exact ⟨_, op, d, s.fingerprint, hform, by simp, by simp [mightMatchSchema, hform],
      by simp only [mightMatchSchema, hneg]⟩

theorem mightMatchSchema_negated (htest : (Expr.predicate p).isSchemaTest)
    (hvalid : p.validate = .ok ()) (hp : p.ordersSchemaByPattern = false) :
    p.negated.mightMatchSchema s = !p.mightMatchSchema s := by
  obtain ⟨key, op, d, text, hform, hkey, hpos, hneg⟩ := exists_text_of_isSchemaTest htest s
  rw [hpos, hneg]
  refine Data.holds_negate fun ho => ?_
  have hoperand : (Extractor.metadata key).validate op d = .ok () := by
    simpa [validate, hform] using hvalid
  -- a text is ordered with texts alone, and validation leaves patterns as the only other operands
  cases d with
  | string t => rfl
  | pattern q => simp [ordersSchemaByPattern, hform, htest, ho] at hp
  | _ => cases key <;> simp_all [Extractor.validate]

end Predicate

theorem Data.holds_ordering_pattern {op : Operator} (h : op.isOrdering) (text : String)
    (q : Pattern) : (Data.string text).holds op (.pattern q) = false := by
  cases op <;> first | rfl | simp [Operator.isOrdering] at h

/-- The negation of such an ordering is true in every row of every schema and excludes them all. -/
theorem Predicate.negation_excludes_and_holds (p : Predicate) (h : p.ordersSchemaByPattern)
    (x : Slice) : (Expr.negation (.predicate p)).mightMatchSchema x.schema = false ∧
      (Expr.negation (.predicate p)).mask x = List.replicate x.rows true := by
  unfold ordersSchemaByPattern at h
  split at h
  · rename_i y op q hform
    rw [Bool.and_eq_true] at h
    obtain ⟨htest, ho⟩ := h
    obtain ⟨key, op', d, text, hform', -, hpos, hneg⟩ := exists_text_of_isSchemaTest htest x.schema
    obtain ⟨rfl, rfl, rfl⟩ : y = .metadata key ∧ op = op' ∧ Data.pattern q = d := by
      simpa using hform.symm.trans hform'
    have hpos' : p.mightMatchSchema x.schema = false :=
      hpos.trans (Data.holds_ordering_pattern ho text q)
    constructor
    · exact hneg.trans (Data.holds_ordering_pattern (by simpa using ho) text q)
    · refine Expr.mask_eq_replicate fun row hrow => ?_
      rw [Expr.meaning_negation, Expr.meaning_predicate, truthAt_of_isSchemaTest hrow htest, hpos']
      rfl
  · simp at h

namespace Expr

variable {e r : Expr} {x : Slice}

theorem mask_of_excluded (hproper : e.IsProper) (hvalid : e.validate = .ok ())
    (hexact : ∀ p, (true, p) ∈ e.signedLeaves false → p.ordersSchemaByPattern = false)
    (hexcluded : e.mightMatchSchema x.schema = false) (hr : e.resolve x.schema = .ok r) :
    r.mask x = List.replicate x.rows false := by
  refine mask_of_exact_exclusion hproper (fun p hp hfalse => ?_) hexcluded hr
  have htest : (predicate p).isSchemaTest := by
    simpa using Predicate.isSchemaTest_of_mightMatchSchema_eq_false hfalse
  have hleaf : p.validate = .ok () :=
    validate_of_mem_leaves hvalid (mem_leaves_of_mem_signedLeaves hp)
  have hnegated := Predicate.mightMatchSchema_negated (s := x.schema) htest hleaf (hexact p hp)
  simpa [hfalse] using hnegated

/-- A schema with a row that is selected is kept, unless an ordering of the schema by a pattern
stands under an odd number of negations. The negation of the ordering alone excludes the schema,
too, and selects all rows. -/
theorem selected_schema_is_kept_unless_pattern_ordering (hvalid : e.validate = .ok ())
    (hinhabited : e.IsInhabited) (hr : e.resolve x.schema = .ok r)
    (hselected : true ∈ r.mask x) :
    e.mightMatchSchema x.schema = true ∨
      ∃ p, (true, p) ∈ e.signedLeaves false ∧ p.ordersSchemaByPattern ∧
        (negation (predicate p)).mightMatchSchema x.schema = false ∧
        (negation (predicate p)).mask x = List.replicate x.rows true := by
  by_cases hexact : ∀ p, (true, p) ∈ e.signedLeaves false → p.ordersSchemaByPattern = false
  · left
    have hproper := isProper_of_validate hvalid hinhabited
    cases hmight : e.mightMatchSchema x.schema with
    | true => rfl
    | false =>
      rw [mask_of_excluded hproper hvalid hexact hmight hr] at hselected
      simp [List.mem_replicate] at hselected
  · right
    simp only [Classical.not_forall, Bool.not_eq_false] at hexact
    obtain ⟨p, hp, horders⟩ := hexact
    exact ⟨p, hp, horders, p.negation_excludes_and_holds horders x⟩

end Expr

def countsSlice : Slice where
  schema := ⟨"conn", [("count", .scalar .int64)], []⟩
  batch :=
    { rows := 2
      columns := [("count", ⟨.int64, [.int64 1, .int64 5]⟩)]
      rectangular := by decide
      typed := by decide }
  accepted := by decide

/-- The name of the schema is not before the pattern. -/
def notBeforePattern : Expr :=
  let pattern := (Pattern.compile? "a" false).get (by rfl)
  .negation (.predicate ⟨.extractor (.metadata .schema), .less, .literal (.pattern pattern)⟩)

theorem conn_is_excluded_in_spite_of_rows :
    notBeforePattern.validate = .ok () ∧ notBeforePattern.IsInhabited ∧
      notBeforePattern.resolve countsSlice.schema = .ok notBeforePattern ∧
      notBeforePattern.mask countsSlice = [true, true] ∧
      notBeforePattern.mightMatchSchema countsSlice.schema = false ∧
      ∃ p, (true, p) ∈ notBeforePattern.signedLeaves false ∧ p.ordersSchemaByPattern := by
  have hvalid : notBeforePattern.validate = .ok () := by rfl
  have hinhabited : notBeforePattern.IsInhabited := by
    simp [notBeforePattern, Expr.IsInhabited]
  have hr : notBeforePattern.resolve countsSlice.schema = .ok notBeforePattern := by rfl
  have hmask : notBeforePattern.mask countsSlice = [true, true] := by rfl
  have hmight : notBeforePattern.mightMatchSchema countsSlice.schema = false := by rfl
  have hkept := Expr.selected_schema_is_kept_unless_pattern_ordering hvalid hinhabited hr
    (by simp [hmask])
  obtain ⟨p, hp, horders, -⟩ := hkept.resolve_left (by simp [hmight])
  exact ⟨hvalid, hinhabited, hr, hmask, hmight, p, hp, horders⟩

end EventFilter
