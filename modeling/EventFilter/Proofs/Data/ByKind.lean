import EventFilter.Data.ByKind
import EventFilter.Data.Compare
import EventFilter.Proofs.Double.Arithmetic

/-! The order of literals kind by kind against their order by value. Nothing is rounded on the way:
an integer meets the whole part of a double, and what is beyond that is compared with zero. -/

namespace EventFilter

theorem orderSigned_eq (n : Int64) (m : UInt64) : orderSigned n m = compare n.toInt m.toNat := by
  unfold orderSigned
  split
  case isTrue h =>
    rw [Int64.toNat_toUInt64_of_le h, ← compare_natCast, Int64.toInt_eq_toNatClampNeg h]
  case isFalse h =>
    have hneg : n.toInt < 0 := Int64.lt_iff_toInt_lt.mp (Int64.not_le.mp h)
    rw [Int.compare_eq_lt.mpr (by omega)]

namespace Double

variable {x : Double} {n u : Int}

/-! ### Whole parts of integers' size -/

theorem lt_tdiv_mul_add_one (u : Int) : u < u.tdiv one * one + one := by
  have hdiv := Int.tdiv_mul_add_tmod u one
  have hrest := Int.tmod_lt_of_pos u one_pos
  omega

theorem tdiv_mul_sub_one_lt (u : Int) : u.tdiv one * one - one < u := by
  have hdiv := Int.tdiv_mul_add_tmod u one
  have hrest := Int.lt_tmod_of_pos u one_pos
  omega

/-- What a number has beyond its whole part decides only between equal whole parts. -/
theorem compare_mul_one (n u : Int) :
    compare (n * one) u =
      match compare n (u.tdiv one) with
      | .eq => compare (u.tdiv one * one) u
      | unequal => unequal := by
  have hone := one_pos
  have habove := lt_tdiv_mul_add_one u
  have hbelow := tdiv_mul_sub_one_lt u
  cases hcompare : compare n (u.tdiv one) with
  | lt =>
    have hlt := Int.compare_eq_lt.mp hcompare
    have hmul : n * one ≤ (u.tdiv one - 1) * one :=
      Int.mul_le_mul_of_nonneg_right (by omega) (by omega)
    rw [Int.compare_eq_lt]
    grind
  | eq => rw [Int.compare_eq_eq.mp hcompare]
  | gt =>
    have hgt := Int.compare_eq_gt.mp hcompare
    have hmul : (u.tdiv one + 1) * one ≤ n * one :=
      Int.mul_le_mul_of_nonneg_right (by omega) (by omega)
    rw [Int.compare_eq_gt]
    grind

/-- Whether a number in units is not beyond all integers of 64 bits. -/
def IsIntegerSized (u : Int) : Prop :=
  -0x8000000000000000 * one ≤ u ∧ u < 0x10000000000000000 * one

theorem IsIntegerSized.tdiv_one (h : IsIntegerSized u) :
    -0x8000000000000000 ≤ u.tdiv one ∧ u.tdiv one < 0x10000000000000000 := by
  obtain ⟨hlow, hhigh⟩ := h
  have hone := one_pos
  constructor
  · refine Int.not_lt.mp fun hlt => ?_
    have hmul : u.tdiv one * one ≤ (-0x8000000000000000 - 1) * one :=
      Int.mul_le_mul_of_nonneg_right (by omega) (by omega)
    have habove := lt_tdiv_mul_add_one u
    omega
  · refine Int.not_le.mp fun hge => ?_
    have hmul : 0x10000000000000000 * one ≤ u.tdiv one * one :=
      Int.mul_le_mul_of_nonneg_right (by omega) (by omega)
    have hbelow := tdiv_mul_sub_one_lt u
    -- the whole part of what is not negative is at most that
    have hrest : 0 ≤ u.tmod one := Int.tmod_nonneg _ (by omega)
    have hdiv := Int.tdiv_mul_add_tmod u one
    omega

theorem IsIntegerSized.tdiv_one_mul_one (h : IsIntegerSized u) :
    IsIntegerSized (u.tdiv one * one) :=
  ⟨Int.mul_le_mul_of_nonneg_right h.tdiv_one.1 (Int.le_of_lt one_pos),
    Int.mul_lt_mul_of_pos_right h.tdiv_one.2 one_pos⟩

theorem IsIntegerSized.isInfinite_eq_false (h : IsIntegerSized u) (hu : x.units? = some u) :
    x.isInfinite = false := by
  rw [← Bool.not_eq_true]
  intro hinfinite
  have hbeyond : 0x10000000000000000 * (one : Int) < x.absUnits := by
    rw [absUnits_of_isInfinite hinfinite]
    decide +kernel
  have hone := one_pos
  obtain ⟨hlow, hhigh⟩ := h
  rw [units?_eq_some hu] at hlow hhigh
  by_cases hnegative : x.isNegative
  · rw [if_pos hnegative] at hlow
    omega
  · rw [if_neg hnegative] at hhigh
    omega

theorem IsIntegerSized.order?_zero_sub_trunc (h : IsIntegerSized u) (hu : x.units? = some u) :
    order? ⟨0⟩ (x.sub x.trunc) = some (compare (u.tdiv one * one) u) := by
  have htrunc := units?_trunc hu
  obtain ⟨v, hv, hcompare⟩ := exists_units?_sub hu htrunc (h.isInfinite_eq_false hu)
    (h.tdiv_one_mul_one.isInfinite_eq_false htrunc)
  have hzero : (⟨0⟩ : Double).units? = some 0 := by decide +kernel
  rw [order?_of_units? hzero hv, hcompare]

/-! ### Integers against doubles -/

theorem units?_aboveIntegers : aboveIntegers.units? = some (0x10000000000000000 * (one : Int)) := by
  decide +kernel

theorem units?_leastInteger : leastInteger.units? = some (-0x8000000000000000 * (one : Int)) := by
  decide +kernel

theorem orderOfInteger?_eq_units (hlow : -0x8000000000000000 ≤ n)
    (hhigh : n < 0x10000000000000000) :
    orderOfInteger? n x = x.units?.map (compare (n * one)) := by
  have hone := one_pos
  cases hu : x.units? with
  | none => simp [orderOfInteger?, units?_eq_none_iff.mp hu]
  | some u =>
    simp only [orderOfInteger?, if_neg (not_isNaN_of_units? hu),
      order?_of_units? hu units?_aboveIntegers, order?_of_units? hu units?_leastInteger,
      Option.any_some, Int.isGE_compare, Option.some.injEq, Int.compare_eq_lt, Option.map_some]
    by_cases habove : 0x10000000000000000 * one ≤ u
    · have hlt := Int.mul_lt_mul_of_pos_right hhigh hone
      rw [if_pos habove, Int.compare_eq_lt.mpr (by omega)]
    · rw [if_neg habove]
      by_cases hbelow : u < -0x8000000000000000 * one
      · have hle := Int.mul_le_mul_of_nonneg_right hlow (Int.le_of_lt hone)
        rw [if_pos hbelow, Int.compare_eq_gt.mpr (by omega)]
      · have hsized : IsIntegerSized u := ⟨Int.not_lt.mp hbelow, Int.not_le.mp habove⟩
        obtain ⟨hqlow, hqhigh⟩ := hsized.tdiv_one
        rw [if_neg hbelow, toInt_eq (units?_trunc hu) (by omega), compare_mul_one,
          hsized.order?_zero_sub_trunc hu]
        cases compare n (u.tdiv one) <;> rfl

theorem orderOfInteger?_int64 (n : Int64) (x : Double) :
    orderOfInteger? n.toInt x = x.units?.map (compare (n.toInt * one)) :=
  orderOfInteger?_eq_units n.le_toInt (by have := n.toInt_lt; omega)

theorem orderOfInteger?_uint64 (n : UInt64) (x : Double) :
    orderOfInteger? n.toNat x = x.units?.map (compare (n.toNat * one : Int)) :=
  orderOfInteger?_eq_units (by omega) (by have := n.toNat_lt; omega)

end Double

/-- The order kind by kind is that of the values. -/
theorem Data.orderByKind?_eq_order? (a b : Data) : a.orderByKind? b = a.order? b := by
  have hone := Double.one_pos
  cases a <;> cases b <;> simp only [orderByKind?, order?, units?, compare_mul_right hone]
  case int64.uint64 n m => rw [orderSigned_eq]
  case uint64.int64 m n => rw [orderSigned_eq, Int.compare_swap]
  case uint64.uint64 m n => rw [compare_natCast]
  case double.double x y => exact x.order?_eq_units y
  case int64.double n x =>
    rw [Double.orderOfInteger?_int64]
    cases x.units? <;> rfl
  case uint64.double n x =>
    rw [Double.orderOfInteger?_uint64]
    cases x.units? <;> rfl
  case double.int64 x n =>
    rw [Double.orderOfInteger?_int64]
    cases x.units? <;> simp [Int.compare_swap]
  case double.uint64 x n =>
    rw [Double.orderOfInteger?_uint64]
    cases x.units? <;> simp [Int.compare_swap]
  -- a double against what is no number
  all_goals split <;> simp_all

end EventFilter
