import EventFilter.Expr.Resolve
import EventFilter.Proofs.DataType.Compatible
import EventFilter.Proofs.Eval.SchemaExclusion
import EventFilter.Proofs.Expr.Resolution
import EventFilter.Proofs.Schema.Leaves

/-! The columns that resolution passes over because their types do not admit the literal. What such
a column would select is exactly what compatibility overlooks: elements of a list under `in`, and
truth values, which are stored in an order that their literals do not have. -/

namespace EventFilter

namespace Cell

variable {c : Cell} {d : Data} {t : DataType} {l : Layout} {op : Operator}

/-- What a cell would still match when its type does not admit the literal. -/
def strays (op : Operator) (d : Data) (c : Cell) : Bool :=
  match c, d with
  | .bool a, .bool b => op.isOrdering && op.accepts?.any (· (compare a.toNat b.toNat))
  | c, d => c.value?.any (Data.isListed op d)

theorem admits_of_storedOrder?_eq_some {o : Ordering} (hl : t.layout.same l) (hfit : c.fits l)
    (h : c.storedOrder? d = some o) :
    t.equality d = true ∧ (t.ordering d = true ∨ ∃ a b, c = .bool a ∧ d = .bool b) := by
  have htype : ∀ v, c.value? = some v → v.HasType t := fun v => hasType_of_fits t hl hfit
  cases c <;> cases d <;> simp only [storedOrder?, reduceCtorEq] at h
  all_goals
    have hv := htype _ rfl
    cases hv
    simp [DataType.equality, DataType.scalarEquality, DataType.ordering]

theorem test_of_incompatible (hl : t.layout.same l) (hfit : c.fits l)
    (hop : op.isNegated = false) (h : t.compatible op d = false)
    (hbool : ∀ a b, c = .bool a → d = .bool b → op.isOrdering = false) :
    c.test op d = c.value?.map (·.holds op d) := by
  have hnull : d = .null → op ≠ .equal ∧ op ≠ .notEqual := by
    rintro rfl
    constructor
    · rintro rfl
      simp [DataType.compatible, DataType.equality] at h
    · rintro rfl
      simp [Operator.isNegated] at hop
  rw [c.test_eq hnull]
  cases hstored : c.storedOrder? d with
  | none => rfl
  | some o =>
    -- a literal of the column's own kind is admitted for equality, and for the orderings unless it
    -- is a truth value
    obtain ⟨hequality, hordering⟩ := admits_of_storedOrder?_eq_some hl hfit hstored
    cases op with
    | equal => simp [DataType.compatible, hequality] at h
    | less | lessEqual | greater | greaterEqual =>
      replace h : t.ordering d = false := h
      obtain ⟨a, b, hc, hd⟩ := hordering.resolve_left (by simp [h])
      exact absurd (hbool a b hc hd) (by simp [Operator.isOrdering])
    | isIn | ni => rfl
    | notEqual | notIn | notNi => simp [Operator.isNegated] at hop

theorem strays_eq_any (hbool : ∀ a b, c = .bool a → d = .bool b → op.isOrdering = false) :
    c.strays op d = c.value?.any (Data.isListed op d) := by
  unfold strays
  split
  · rename_i a b
    rw [hbool a b rfl rfl, Bool.false_and]
    cases op <;> rfl
  · rfl

theorem test_holds_of_incompatible (hl : t.layout.same l) (hfit : c.fits l)
    (hop : op.isNegated = false) (h : t.compatible op d = false) :
    (c.test op d).holds = c.strays op d := by
  by_cases hbool : ∀ a b, c = .bool a → d = .bool b → op.isOrdering = false
  · rw [test_of_incompatible hl hfit hop h hbool, strays_eq_any hbool]
    cases hv : c.value? with
    | none => rfl
    | some v =>
      have hholds := (hasType_of_fits t hl hfit hv).holds_of_incompatible hop h
      simp [hholds, Truth.holds]
  · simp only [Classical.not_forall, Bool.not_eq_false] at hbool
    obtain ⟨a, b, rfl, rfl, ho⟩ := hbool
    cases op <;> simp [Operator.isOrdering] at ho <;>
      simp [test, storedOrder?, Operator.accepts?, Operator.isOrdering, strays, Truth.holds]

theorem strays_of_isNull (hl : l.isNull) (hfit : c.fits l) : c.strays op d = false := by
  have hc : c = null := by
    cases l with
    | null => cases c <;> simp_all [fits]
    | _ => simp [Layout.isNull] at hl
  subst hc
  rfl

end Cell

namespace Predicate

variable {x : Slice} {p : Predicate} {y : Extractor} {op : Operator} {d : Data} {leaf : Leaf}

theorem compatible_eq_false_of_resolve_eq_empty {s : Schema} (hform : p.form = .test y op d)
    (hr : p.resolve s = .ok .empty) (hleaf : leaf ∈ y.named s) :
    leaf.type.compatible op d = false := by
  have hnone : y.candidates s op d = [] := by
    cases y with
    | metadata key => simp [resolve, hform] at hr
    | data bound o =>
      simp only [resolve, hform] at hr
      split at hr <;> simp at hr
    | field name | type t =>
      simp only [resolve, hform, Except.ok.injEq] at hr
      rw [Expr.join_eq_empty_iff (by simp [onLeaf])] at hr
      exact List.map_eq_nil_iff.mp hr
  rw [Extractor.candidates_eq_filter, List.filter_eq_nil_iff] at hnone
  exact Bool.eq_false_iff.mpr (hnone leaf hleaf)

theorem mask_onLeaf {c : Column} (hc : x.column leaf.offset = .ok c) :
    (onLeaf x.schema op d leaf).mask x = c.cells.map fun cell => (cell.test op d).holds := by
  simp [onLeaf, Expr.mask, Expr.truths, truths, form, Extractor.truths, hc, Column.test]

theorem mask_onLeaf_of_error {err : SliceError} (herr : x.column leaf.offset = .error err) :
    (onLeaf x.schema op d leaf).mask x = List.replicate x.rows false := by
  simp [onLeaf, Expr.mask, Expr.truths, truths, form, Extractor.truths, herr, Input.rows,
    Truth.holds]

end Predicate

/-- A comparison that is no complement holds of no value whose type does not admit the literal, but
of the elements of a list under `in`. Where it resolves to nothing, the columns that were meant would
select these and what the stored order of truth values adds. -/
theorem dropped_columns_match_listed_values_and_ordered_bools {op : Operator}
    (hop : op.isNegated = false) (d : Data) :
    (∀ (t : DataType) (l : Layout) (c : Cell) (v : Data), t.layout.same l → c.fits l →
      c.value? = some v → t.compatible op d = false → v.holds op d = Data.isListed op d v) ∧
    ∀ (x : Slice) (p : Predicate) (y : Extractor), p.form = .test y op d →
      p.resolve x.schema = .ok .empty → ∀ leaf ∈ y.named x.schema,
        ∃ column, x.column? leaf.offset = some column ∧
          (Predicate.onLeaf x.schema op d leaf).mask x = column.cells.map (·.strays op d) := by
  constructor
  · intro t l c v hl hfit hv h
    exact (Cell.hasType_of_fits t hl hfit hv).holds_of_incompatible hop h
  · intro x p y hform hr leaf hleaf
    obtain ⟨name, hfield⟩ := Schema.field?_of_mem_leaves (Extractor.mem_leaves_of_mem_named hleaf)
    obtain ⟨column, hcolumn, hlayout⟩ := Slice.column?_of_field? hfield
    have hincompatible := Predicate.compatible_eq_false_of_resolve_eq_empty hform hr hleaf
    have htyped := Slice.typed_of_column? hcolumn
    refine ⟨column, hcolumn, ?_⟩
    rcases Slice.column_of_column? hcolumn with hgiven | ⟨herror, hnull⟩
    · rw [Predicate.mask_onLeaf hgiven]
      refine List.map_congr_left fun cell hcell => ?_
      exact Cell.test_holds_of_incompatible hlayout (htyped cell hcell) hop hincompatible
    · -- a column that is not given has no row to select, and one of nulls alone has none either
      have hsize : column.cells.length = x.rows := Slice.size_of_column? hcolumn
      rw [Predicate.mask_onLeaf_of_error herror, ← hsize, eq_comm, List.map_eq_replicate_iff]
      exact fun cell hcell => Cell.strays_of_isNull hnull (htyped cell hcell)

def mixedList : Data := .list [.int64 1, .string "a"]

theorem mixed_list_drops_column_with_match :
    let p : Predicate := ⟨.extractor (.field "count"), .isIn, .literal mixedList⟩
    let leaf : Leaf := ⟨[0], "count", .scalar .int64⟩
    leaf.type.compatible .isIn mixedList = false ∧ (Data.int64 1).holds .isIn mixedList = true ∧
      p.resolve countsSlice.schema = .ok .empty ∧
      (Predicate.onLeaf countsSlice.schema .isIn mixedList leaf).mask countsSlice = [true, false] := by
  intro p leaf
  have hincompatible : leaf.type.compatible .isIn mixedList = false := by rfl
  have hr : p.resolve countsSlice.schema = .ok .empty := by rfl
  have hnamed : (Extractor.field "count").named countsSlice.schema = [leaf] := by rfl
  have hop : Operator.isIn.isNegated = false := rfl
  obtain ⟨hvalues, hcolumns⟩ :=
    dropped_columns_match_listed_values_and_ordered_bools hop mixedList
  have hholds := hvalues leaf.type .int64 (.int64 1) (.int64 1) rfl rfl rfl hincompatible
  obtain ⟨column, hcolumn, hmask⟩ := hcolumns countsSlice p _ rfl hr leaf (by simp [hnamed])
  have hcells : column = ⟨.int64, [.int64 1, .int64 5]⟩ := Option.some.inj (hcolumn.symm.trans rfl)
  subst hcells
  exact ⟨hincompatible, hholds.trans (by decide +kernel), hr, hmask.trans (by decide +kernel)⟩

end EventFilter
