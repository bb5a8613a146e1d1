import EventFilter.Proofs.Data.Operators
import EventFilter.Proofs.Eval.Meaning
import EventFilter.Proofs.Table.Columns

/-! Evaluation row by row. The truths of an expression are its meanings under the truths of its
predicates in each row. -/

namespace EventFilter

/-- The truth in a row; what has no truths is unknown in every row. -/
def Truth.inRow (row : Nat) : Except Diagnostic (List Truth) → Truth
  | .ok ts => ts[row]?.getD none
  | .error _ => none

theorem Truth.inRow_map_not (row : Nat) (r : Except Diagnostic (List Truth)) :
    inRow row (r.map (List.map not)) = (inRow row r).not := by
  cases r with
  | error d => rfl
  | ok ts => cases h : ts[row]? <;> simp [inRow, Except.map, h, not]

def Predicate.truthAt (input : Input) (row : Nat) (p : Predicate) : Truth :=
  Truth.inRow row (p.truths input)

theorem Extractor.length_truths {x : Extractor} {op : Operator} {d : Data} {input : Input}
    {ts : List Truth} (h : x.truths op d input = .ok ts) : ts.length = input.rows := by
  cases input with
  | constant => simp [truths] at h
  | slice s =>
    cases x with
    | metadata key =>
      obtain rfl : List.replicate s.rows _ = ts := by simpa [truths] using h
      simp [Input.rows]
    | data schema o =>
      simp only [truths] at h
      split at h
      · simp at h
      · split at h
        · rename_i c hc
          obtain rfl : c.test op d = ts := by simpa using h
          simpa [Column.test, Column.size, Input.rows] using
            Slice.size_of_column? (Slice.column?_of_column hc)
        · simp at h
    | field name => simp [truths] at h
    | type t => simp [truths] at h

theorem Predicate.length_truths {p : Predicate} {input : Input} {ts : List Truth}
    (h : p.truths input = .ok ts) : ts.length = input.rows := by
  unfold truths at h
  split at h
  · obtain rfl : List.replicate input.rows _ = ts := by simpa using h
    simp
  · exact Extractor.length_truths h
  · simp at h

theorem Expr.groupTruths_eq_map {input : Input} {c : Connective} {es : List Expr}
    (h : ∀ e ∈ es, e.truths input =
      (List.range input.rows).map fun row => e.meaning (Predicate.truthAt input row)) :
    groupTruths input c es = (List.range input.rows).map fun row =>
      c.fold (es.map (·.meaning (Predicate.truthAt input row))) := by
  induction es with
  | nil => simp [groupTruths, List.map_const']
  | cons e rest ih =>
    rw [groupTruths, h e (by simp), ih fun f hf => h f (List.mem_cons_of_mem _ hf)]
    simp [List.zipWith_map, List.zipWith_self]

theorem Expr.truths_eq_map (input : Input) (e : Expr) :
    e.truths input =
      (List.range input.rows).map fun row => e.meaning (Predicate.truthAt input row) := by
  induction e with
  | empty => simp [truths, List.map_const']
  | group c children ih => simp [truths, groupTruths_eq_map ih]
  | negation child ih => simp [truths, ih]
  | predicate p =>
    cases hts : p.truths input with
    | ok ts =>
      have hlen := Predicate.length_truths hts
      simp only [truths, meaning_predicate, Predicate.truthAt, Truth.inRow, hts, ← hlen,
        range_map_getD]
    | error d => simp [truths, Predicate.truthAt, Truth.inRow, hts, List.map_const']

theorem Expr.length_truths (input : Input) (e : Expr) : (e.truths input).length = input.rows := by
  simp [truths_eq_map]

theorem Expr.length_mask (s : Slice) (e : Expr) : (e.mask s).length = s.rows := by
  simp [mask, length_truths, Input.rows]

theorem Expr.mask_eq_map (s : Slice) (e : Expr) :
    e.mask s = (List.range s.rows).map fun row =>
      (e.meaning (Predicate.truthAt (.slice s) row)).holds := by
  simp [mask, truths_eq_map, Input.rows, Function.comp_def]

theorem Expr.not_mem_mask_iff {s : Slice} {e : Expr} :
    true ∉ e.mask s ↔
      ∀ row < s.rows, e.meaning (Predicate.truthAt (.slice s) row) ≠ some true := by
  simp [mask_eq_map, Truth.holds]

theorem Expr.mask_eq_replicate {s : Slice} {e : Expr} {b : Bool}
    (h : ∀ row < s.rows, e.meaning (Predicate.truthAt (.slice s) row) = some b) :
    e.mask s = List.replicate s.rows b := by
  rw [mask_eq_map, List.eq_replicate_iff]
  refine ⟨by simp, fun x hx => ?_⟩
  obtain ⟨row, hrow, rfl⟩ := List.mem_map.mp hx
  simp [h row (List.mem_range.mp hrow), Truth.holds]

/-! ### Exchanged operands and negated operators -/

theorem Predicate.truths_aligned (input : Input) (p : Predicate) :
    p.aligned.truths input = p.truths input := by
  obtain ⟨l, op, r⟩ := p
  cases l <;> cases r <;> rfl

theorem Predicate.truthAt_aligned (input : Input) (row : Nat) (p : Predicate) :
    p.aligned.truthAt input row = p.truthAt input row := by
  simp [truthAt, truths_aligned]

theorem Operator.accepts?_negate (op : Operator) :
    op.negate.accepts? = op.accepts?.map fun accepts o => !accepts o := by
  cases op
  case isIn | notIn | ni | notNi => rfl
  all_goals
    refine congrArg some (funext fun o => ?_)
    cases o <;> rfl

theorem Cell.test_null_equal (c : Cell) : c.test .equal .null = some c.isNull := rfl

theorem Cell.test_null_notEqual (c : Cell) : c.test .notEqual .null = some !c.isNull := rfl

theorem Cell.test_eq {op : Operator} {d : Data} (c : Cell)
    (h : d = .null → op ≠ .equal ∧ op ≠ .notEqual) :
    c.test op d = match c.storedOrder? d, op.accepts? with
      | some o, some accepts => some (accepts o)
      | _, _ => c.value?.map (·.holds op d) := by
  unfold test
  split
  · exact absurd rfl (h rfl).1
  · exact absurd rfl (h rfl).2
  · rfl

/-- The negated operator has the complement for an answer, except perhaps where values are compared
by their meaning. -/
theorem Cell.test_negate_cases (c : Cell) (op : Operator) (d : Data) :
    c.test op.negate d = (c.test op d).not ∨ ∃ v, c.value? = some v ∧
      c.test op d = some (v.holds op d) ∧ c.test op.negate d = some (v.holds op.negate d) := by
  by_cases hnull : d = .null ∧ (op = .equal ∨ op = .notEqual)
  · left
    obtain ⟨rfl, rfl | rfl⟩ := hnull
    · rfl
    · simp [Operator.negate, test_null_equal, test_null_notEqual, Truth.not]
  · have hop : d = .null → op ≠ .equal ∧ op ≠ .notEqual :=
      fun hd => ⟨fun he => hnull ⟨hd, .inl he⟩, fun he => hnull ⟨hd, .inr he⟩⟩
    have hneg : d = .null → op.negate ≠ .equal ∧ op.negate ≠ .notEqual := by
      intro hd
      have := hop hd
      cases op <;> simp_all [Operator.negate]
    rw [c.test_eq hop, c.test_eq hneg, Operator.accepts?_negate]
    cases c.storedOrder? d <;> cases op.accepts? <;> cases c.value? <;> simp [Truth.not]

theorem Cell.test_negate {c : Cell} {op : Operator} {d : Data}
    (h : op.isOrdering → ∀ v, c.value? = some v → (Data.order? v d).isSome) :
    c.test op.negate d = (c.test op d).not := by
  rcases c.test_negate_cases op d with hneg | ⟨v, hv, hpos, hneg⟩
  · exact hneg
  · rw [hpos, hneg, Data.holds_negate fun ho => h ho v hv]
    rfl

end EventFilter
