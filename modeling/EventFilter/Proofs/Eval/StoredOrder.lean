import EventFilter.Proofs.DataType.Compatible
import EventFilter.Proofs.DataType.Values
import EventFilter.Proofs.Double
import EventFilter.Proofs.Eval.Rows

/-! The stored order of a column against the order of its values. A literal of the column's own
kind is compared in the stored order, every other literal by value; the two agree on all kinds that
a type admits for the comparison, but for doubles that are zero or no number. -/

namespace EventFilter

/-! ### Doubles -/

namespace Double

variable {x y : Double} {op : Operator} {accepts : Ordering → Bool}

/-- Whether a comparison of the two zeros tells them apart when the negative one counts as less. -/
def splitsZeros (op : Operator) (negativeFirst : Bool) : Bool :=
  match op with
  | .equal | .notEqual => true
  | .less | .greaterEqual => negativeFirst
  | .lessEqual | .greater => !negativeFirst
  | .isIn | .notIn | .ni | .notNi => false

/-- Whether the order of bit patterns answers a comparison otherwise than the values do. With a NaN,
no ordering holds of the values, while its bit pattern has a place in the order; and the two zeros
have one value. -/
def disputes (op : Operator) (x y : Double) : Bool :=
  if x.isNaN || y.isNaN then op.isOrdering && op.accepts?.any (· (compare x.position y.position))
  else x.isZero && y.isZero && x ≠ y && splitsZeros op x.isNegative

theorem disputes_of_accepts?_eq_none (h : op.accepts? = none) : x.disputes op y = false := by
  cases op <;> simp [Operator.accepts?] at h <;> simp [disputes, Operator.isOrdering, splitsZeros]

theorem compare_position_of_isZero (hx : x.isZero) (hy : y.isZero) (hne : x ≠ y) :
    compare x.position y.position = if x.isNegative then .lt else .gt := by
  have hposition : x.position ≠ y.position := mt position_eq_iff.mp hne
  simp only [isZero, decide_eq_true_eq] at hx hy
  simp only [position, hx, hy] at hposition ⊢
  cases hxs : x.isNegative <;> cases hys : y.isNegative <;> simp_all <;> rfl

theorem order?_eq_none (h : x.isNaN || y.isNaN) :
    Data.order? (.double x) (.double y) = none := by
  rw [Bool.or_eq_true, ← units?_eq_none_iff, ← units?_eq_none_iff] at h
  rcases h with h | h
  · simp [Data.order?, Data.units?, h]
  · cases hx : x.units? <;> simp [Data.order?, Data.units?, h, hx]

/-- By value a NaN is in no order and equal to itself alone. -/
theorem accepts_position_of_isNaN (h : x.isNaN || y.isNaN) (ha : op.accepts? = some accepts) :
    accepts (compare x.position y.position) =
      (x.disputes op y != (Data.double x).holds op (.double y)) := by
  have hnone := order?_eq_none h
  have hequals : (Data.double x).equals (.double y) = decide (x = y) := by
    simp [Data.equals, hnone]
  have hcompare : compare x.position y.position = .eq ↔ x = y :=
    Std.LawfulEqOrd.compare_eq_iff_eq.trans position_eq_iff
  cases op <;> simp only [Operator.accepts?, Option.some.injEq, reduceCtorEq] at ha <;>
    subst ha <;> simp [disputes, h, Operator.isOrdering, Operator.accepts?, Data.holds, hnone,
      hequals, hcompare]

theorem accepts_position_of_units? {m n : Int} (hx : x.units? = some m) (hy : y.units? = some n)
    (ha : op.accepts? = some accepts) :
    accepts (compare x.position y.position) =
      (x.disputes op y != (Data.double x).holds op (.double y)) := by
  have hnan {z : Double} {k : Int} (hz : z.units? = some k) : z.isNaN = false := by
    rw [← Bool.not_eq_true, ← units?_eq_none_iff, hz]
    exact nofun
  have hdisputes : x.disputes op y =
      (x.isZero && y.isZero && x ≠ y && splitsZeros op x.isNegative) := by
    simp [disputes, hnan hx, hnan hy]
  have horder : Data.order? (.double x) (.double y) = some (compare m n) := by
    simp [Data.order?, Data.units?, hx, hy]
  rw [hdisputes, Data.holds_of_order?_eq_some horder ha, compare_units hx hy]
  by_cases hzero : x.isZero && y.isZero
  · by_cases hxy : x = y
    · simp [hxy]
    · rw [Bool.and_eq_true] at hzero
      rw [compare_position_of_isZero hzero.1 hzero.2 hxy]
      cases op <;> simp only [Operator.accepts?, Option.some.injEq, reduceCtorEq] at ha <;>
        subst ha <;> cases x.isNegative <;> simp [hzero, hxy, splitsZeros]
  · simp [hzero]

theorem accepts_position (ha : op.accepts? = some accepts) :
    accepts (compare x.position y.position) =
      (x.disputes op y != (Data.double x).holds op (.double y)) := by
  cases hx : x.units? with
  | none => exact accepts_position_of_isNaN (by simp [units?_eq_none_iff.mp hx]) ha
  | some m =>
    cases hy : y.units? with
    | none => exact accepts_position_of_isNaN (by simp [units?_eq_none_iff.mp hy]) ha
    | some n => exact accepts_position_of_units? hx hy ha

end Double

/-! ### Columns -/

namespace Cell

variable {c : Cell} {d v : Data} {t : DataType} {l : Layout} {op : Operator} {o : Ordering}
  {accepts : Ordering → Bool}

/-- Whether the stored order of a cell answers the comparison otherwise than its value does. -/
def disputes (op : Operator) (d : Data) : Cell → Bool
  | double x =>
    match d with
    | .double y => x.disputes op y
    | _ => false
  | _ => false

theorem disputes_of_accepts?_eq_none (h : op.accepts? = none) : c.disputes op d = false := by
  cases c with
  | double x =>
    cases d with
    | double y => exact Double.disputes_of_accepts?_eq_none h
    | _ => rfl
  | _ => rfl

theorem disputes_of_storedOrder?_eq_none (h : c.storedOrder? d = none) :
    c.disputes op d = false := by
  cases c with
  | double x =>
    cases d with
    | double y => simp [storedOrder?] at h
    | _ => rfl
  | _ => rfl

theorem disputes_of_ne_double (h : ∀ y, d ≠ .double y) : c.disputes op d = false := by
  unfold disputes
  split
  · split
    · exact absurd rfl (h _)
    · rfl
  · rfl

theorem order?_of_storedOrder? (h : c.storedOrder? d = some o) (hv : c.value? = some v)
    (hbool : ∀ b, d ≠ .bool b) (hdouble : ∀ y, d ≠ .double y) : Data.order? v d = some o := by
  cases c <;> cases d <;> simp only [storedOrder?, reduceCtorEq, Option.some.injEq] at h <;>
    subst h <;> obtain rfl := Option.some.inj hv
  case bool a b => exact absurd rfl (hbool b)
  case double x y => exact absurd rfl (hdouble y)
  case int64 m n => simp [Data.order?, Data.units?, compare_mul_right Double.one_pos]
  case uint64 m n =>
    simp [Data.order?, Data.units?, compare_mul_right Double.one_pos, compare_natCast]
  case string s u => rfl
  case duration m n => rfl
  case time m n => rfl

theorem accepts_storedOrder (h : c.storedOrder? d = some o) (hv : c.value? = some v)
    (ha : op.accepts? = some accepts)
    (hordering : ∀ a b, c = .bool a → d = .bool b → op.isOrdering = false) :
    accepts o = (c.disputes op d != v.holds op d) := by
  by_cases hdouble : ∃ y, d = .double y
  · obtain ⟨y, rfl⟩ := hdouble
    cases c <;> simp only [storedOrder?, reduceCtorEq, Option.some.injEq] at h
    subst h
    obtain rfl := Option.some.inj hv
    exact Double.accepts_position ha
  · rw [disputes_of_ne_double (not_exists.mp hdouble)]
    by_cases hbool : ∃ b, d = .bool b
    · obtain ⟨b, rfl⟩ := hbool
      cases c <;> simp only [storedOrder?, reduceCtorEq, Option.some.injEq] at h
      subst h
      obtain rfl := Option.some.inj hv
      have hop := hordering _ b rfl rfl
      rename_i a
      cases op <;> simp [Operator.isOrdering] at hop <;>
        simp only [Operator.accepts?, Option.some.injEq, reduceCtorEq] at ha <;> subst ha <;>
        cases a <;> cases b <;> decide
    · have horder := order?_of_storedOrder? h hv (not_exists.mp hbool) (not_exists.mp hdouble)
      simp [Data.holds_of_order?_eq_some horder ha]

theorem isSome_value?_of_storedOrder? (h : c.storedOrder? d = some o) : ∃ v, c.value? = some v := by
  cases c <;> first | exact ⟨_, rfl⟩ | (cases d <;> simp [storedOrder?] at h)

/-- Truth values have no order as literals, and no type of theirs admits to be ordered. -/
theorem not_ordering_of_compatible (hl : t.layout.same l) (hfit : c.fits l)
    (h : t.compatible op d) (a b : Bool) (hc : c = .bool a) (hd : d = .bool b) :
    op.isOrdering = false := by
  subst hc hd
  have htype := hasType_of_fits t hl hfit rfl
  cases htype
  cases op <;> first | rfl | simp [DataType.compatible, DataType.ordering] at h

theorem test_of_compatible (hl : t.layout.same l) (hfit : c.fits l) (hd : d ≠ .null)
    (h : t.compatible op d) :
    c.test op d = if c.disputes op d then Truth.not (c.value?.map (·.holds op d))
      else c.value?.map (·.holds op d) := by
  rw [c.test_eq fun hnull => absurd hnull hd]
  cases hstored : c.storedOrder? d with
  | none => simp [disputes_of_storedOrder?_eq_none hstored]
  | some o =>
    cases ha : op.accepts? with
    | none => simp [disputes_of_accepts?_eq_none ha]
    | some accepts =>
      obtain ⟨v, hv⟩ := isSome_value?_of_storedOrder? hstored
      have hanswer := accepts_storedOrder hstored hv ha (not_ordering_of_compatible hl hfit h)
      cases hdisputes : c.disputes op d <;> simp [hanswer, hv, hdisputes, Truth.not]

/-- Only null cells and records have no value. -/
theorem value?_eq_none_iff (hl : t.layout.same l) (hfit : c.fits l) :
    c.value? = none ↔ c.isNull ∨ t.isRecord := by
  cases t with
  | record fs a =>
    obtain ⟨ls, rfl, -⟩ := Layout.struct_of_same hl
    cases c <;> simp [fits] at hfit
    simp [value?, DataType.isRecord, DataType.fields?]
  | scalar k a =>
    cases k <;> cases l <;> simp [DataType.layout, Scalar.layout, Layout.same] at hl <;>
      cases c <;> simp [fits] at hfit <;> simp [value?, isNull, DataType.isRecord, DataType.fields?]
  | list u a =>
    cases l <;> simp [DataType.layout, Layout.same] at hl
    cases c <;> simp [fits] at hfit <;> simp [value?, isNull, DataType.isRecord, DataType.fields?]

end Cell

/-- A column whose type admits the literal answers a comparison by its values, in whichever order it
is made, but for the doubles on which the two orders disagree: these have the complement for an
answer. No answer is given where there is no value, that is in null cells and in columns of
records. -/
theorem column_compares_by_value_but_for_disputed_doubles {t : DataType} {op : Operator} {d : Data}
    {c : Column} (hl : t.layout.same c.layout) (hc : c.Typed) (hd : d ≠ .null)
    (h : t.compatible op d) :
    (c.test op d = c.cells.map fun cell =>
      if cell.disputes op d then Truth.not (cell.value?.map (·.holds op d))
      else cell.value?.map (·.holds op d)) ∧
    ∀ cell ∈ c.cells, (cell.value? = none ↔ cell.isNull ∨ t.isRecord) := by
  constructor
  · exact List.map_congr_left fun cell hcell => Cell.test_of_compatible hl (hc cell hcell) hd h
  · exact fun cell hcell => Cell.value?_eq_none_iff hl (hc cell hcell)

def positiveZero : Double := ⟨0⟩

def negativeZero : Double := ⟨0x8000000000000000⟩

def zeroColumn : Column :=
  ⟨.float64, [.double negativeZero, .double positiveZero, .null, .double ⟨0x7ff8000000000000⟩]⟩

theorem negative_zero_is_told_apart :
    let t : DataType := .scalar .double
    let zero : Data := .double positiveZero
    t.layout.same zeroColumn.layout ∧ zeroColumn.Typed ∧ t.compatible .equal zero ∧
      zeroColumn.test .equal zero = [some false, some true, none, some false] ∧
      zeroColumn.cells.map (·.value?.map (·.holds .equal zero)) =
        [some true, some true, none, some false] ∧
      zeroColumn.test .equal (.int64 0) = [some true, some true, none, some false] ∧
      zeroColumn.test .isIn (.list [zero]) = [some true, some true, none, some false] := by
  intro t zero
  have hl : t.layout.same zeroColumn.layout := by rfl
  have hc : zeroColumn.Typed := by simp [Column.Typed, zeroColumn, Cell.fits]
  have hequal : t.compatible .equal zero := by rfl
  have hinteger : t.compatible .equal (.int64 0) := by rfl
  have hlist : t.compatible .isIn (.list [zero]) := by rfl
  obtain ⟨hstored, -⟩ :=
    column_compares_by_value_but_for_disputed_doubles hl hc (by simp [zero]) hequal
  obtain ⟨hrows, -⟩ := column_compares_by_value_but_for_disputed_doubles hl hc (by simp) hinteger
  obtain ⟨hmember, -⟩ := column_compares_by_value_but_for_disputed_doubles hl hc (by simp) hlist
  refine ⟨hl, hc, hequal, hstored.trans ?_, ?_, hrows.trans ?_, hmember.trans ?_⟩
  all_goals decide +kernel

end EventFilter
