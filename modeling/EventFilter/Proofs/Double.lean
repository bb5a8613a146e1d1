import EventFilter.Double

/-! The order of bit patterns against the order of the numbers they stand for. Magnitudes grow with
the absolute values, so that the two orders differ only on the zeros, and on what is no number. -/

namespace EventFilter

theorem compare_mul_right {k : Int} (hk : 0 < k) (m n : Int) :
    compare (m * k) (n * k) = compare m n := by
  have hlt : m * k < n * k ↔ m < n := Int.mul_lt_mul_right hk
  have heq : m * k = n * k ↔ m = n := Int.mul_eq_mul_right_iff (Int.ne_of_gt hk)
  simp only [compare, compareOfLessAndEq, hlt, heq]

theorem compare_natCast (m n : Nat) : compare (m : Int) n = compare m n := by
  simp only [compare, compareOfLessAndEq, Int.ofNat_lt, Int.natCast_inj]

namespace Double

variable {x y : Double}

theorem one_pos : (0 : Int) < one := by
  have hpos (k : Nat) : 0 < 1 <<< k := by
    rw [Nat.shiftLeft_eq, Nat.one_mul]
    exact Nat.two_pow_pos k
  exact Int.ofNat_lt.mpr (hpos 1074)

theorem position_eq_iff : x.position = y.position ↔ x = y :=
  ⟨fun h => position_injective h, fun h => by rw [h]⟩

theorem magnitude_eq (x : Double) : x.magnitude = hiddenBit * x.exponentField + x.fraction :=
  (Nat.div_add_mod x.magnitude hiddenBit).symm

theorem fraction_lt (x : Double) : x.fraction < hiddenBit := Nat.mod_lt _ (by decide)

theorem shiftLeft_mono {m n : Nat} (h : m ≤ n) (k : Nat) : m <<< k ≤ n <<< k := by
  rw [Nat.shiftLeft_eq, Nat.shiftLeft_eq]
  exact Nat.mul_le_mul_right _ h

theorem shiftLeft_strictMono {m n : Nat} (h : m < n) (k : Nat) : m <<< k < n <<< k := by
  rw [Nat.shiftLeft_eq, Nat.shiftLeft_eq]
  exact Nat.mul_lt_mul_of_pos_right h (Nat.two_pow_pos k)

theorem shiftLeft_le_shiftLeft_of_le (m : Nat) {j k : Nat} (h : j ≤ k) : m <<< j ≤ m <<< k := by
  rw [Nat.shiftLeft_eq, Nat.shiftLeft_eq]
  exact Nat.mul_le_mul_left _ (Nat.pow_le_pow_right (by decide) h)

theorem significand_of_normal (h : x.exponentField ≠ 0) :
    x.significand = hiddenBit + x.fraction := if_neg h

theorem absUnits_of_subnormal (h : x.exponentField = 0) : x.absUnits = x.fraction := by
  simp [absUnits, significand, h]

theorem absUnits_lt (x : Double) : x.absUnits < hiddenBit <<< x.exponentField := by
  have hfraction := x.fraction_lt
  by_cases he : x.exponentField = 0
  · rw [absUnits_of_subnormal he, he]
    omega
  · obtain ⟨k, hk⟩ := Nat.exists_eq_succ_of_ne_zero he
    have hsignificand : x.significand < hiddenBit * 2 := by
      rw [significand_of_normal he]
      omega
    calc x.absUnits = x.significand <<< k := by rw [absUnits, hk, Nat.succ_sub_one]
      _ < (hiddenBit * 2) <<< k := shiftLeft_strictMono hsignificand k
      _ = hiddenBit <<< x.exponentField := by rw [hk, Nat.mul_comm, Nat.shiftLeft_succ_inside]

theorem le_absUnits (h : x.exponentField ≠ 0) :
    hiddenBit <<< (x.exponentField - 1) ≤ x.absUnits := by
  rw [absUnits, significand_of_normal h]
  exact shiftLeft_mono (Nat.le_add_right _ _) _

theorem absUnits_lt_of_magnitude_lt (h : x.magnitude < y.magnitude) : x.absUnits < y.absUnits := by
  have hx := x.magnitude_eq
  have hy := y.magnitude_eq
  have hxf := x.fraction_lt
  have hyf := y.fraction_lt
  have hle : x.exponentField ≤ y.exponentField := Nat.div_le_div_right (Nat.le_of_lt h)
  by_cases he : x.exponentField = y.exponentField
  · have hfraction : x.fraction < y.fraction := by
      rw [hx, hy, he] at h
      omega
    have hsignificand : x.significand < y.significand := by
      unfold significand
      rw [he]
      split <;> omega
    rw [absUnits, absUnits, he]
    exact shiftLeft_strictMono hsignificand _
  · -- a larger exponent outweighs every fraction
    have hlt : x.exponentField < y.exponentField := Nat.lt_of_le_of_ne hle he
    calc x.absUnits < hiddenBit <<< x.exponentField := x.absUnits_lt
      _ ≤ hiddenBit <<< (y.exponentField - 1) := shiftLeft_le_shiftLeft_of_le _ (by omega)
      _ ≤ y.absUnits := le_absUnits (by omega)

theorem absUnits_lt_iff : x.absUnits < y.absUnits ↔ x.magnitude < y.magnitude := by
  refine ⟨fun h => ?_, absUnits_lt_of_magnitude_lt⟩
  by_cases hlt : x.magnitude < y.magnitude
  · exact hlt
  · by_cases hgt : y.magnitude < x.magnitude
    · have := absUnits_lt_of_magnitude_lt hgt
      omega
    · have heq : x.magnitude = y.magnitude := by omega
      have hexponent : x.exponentField = y.exponentField := by
        rw [exponentField, heq, exponentField]
      have hfraction : x.fraction = y.fraction := by rw [fraction, heq, fraction]
      have : x.absUnits = y.absUnits := by simp [absUnits, significand, hexponent, hfraction]
      omega

theorem absUnits_eq_zero_iff : x.absUnits = 0 ↔ x.magnitude = 0 := by
  have hzero : (⟨0⟩ : Double).absUnits = 0 := by decide +kernel
  have hmagnitude : (⟨0⟩ : Double).magnitude = 0 := by decide
  have hiff := absUnits_lt_iff (x := ⟨0⟩) (y := x)
  rw [hzero, hmagnitude] at hiff
  omega

/-- Either of the two zeros. -/
def isZero (x : Double) : Bool := x.magnitude = 0

theorem units?_eq_none_iff : x.units? = none ↔ x.isNaN := by
  unfold units?
  split <;> simp_all

variable {m n : Int}

theorem not_isNaN_of_units? (h : x.units? = some m) : ¬ x.isNaN := by
  rw [← units?_eq_none_iff, h]
  exact nofun

theorem units?_eq_some (h : x.units? = some m) :
    m = if x.isNegative then -(x.absUnits : Int) else x.absUnits := by
  unfold units? at h
  split at h
  · simp at h
  · exact (Option.some.inj h).symm

theorem lt_iff_position_lt (hx : x.units? = some m) (hy : y.units? = some n) :
    m < n ↔ x.position < y.position ∧ ¬ (x.isZero ∧ y.isZero) := by
  have hxy := absUnits_lt_iff (x := x) (y := y)
  have hyx := absUnits_lt_iff (x := y) (y := x)
  have hx0 := absUnits_eq_zero_iff (x := x)
  have hy0 := absUnits_eq_zero_iff (x := y)
  rw [units?_eq_some hx, units?_eq_some hy]
  simp only [position, isZero, decide_eq_true_eq]
  cases x.isNegative <;> cases y.isNegative <;>
    simp only [if_true, Bool.false_eq_true, if_false] <;> omega

/-- Two numbers are equal iff they are the same, or the two zeros. -/
theorem eq_iff_eq_or_isZero (hx : x.units? = some m) (hy : y.units? = some n) :
    m = n ↔ x = y ∨ (x.isZero ∧ y.isZero) := by
  have hlt := lt_iff_position_lt hx hy
  have hgt := lt_iff_position_lt hy hx
  rw [← position_eq_iff]
  cases hx0 : x.isZero <;> cases hy0 : y.isZero <;> simp [hx0, hy0] at hlt hgt ⊢ <;> omega

theorem compare_units (hx : x.units? = some m) (hy : y.units? = some n) :
    compare m n = if x.isZero && y.isZero then .eq else compare x.position y.position := by
  have hlt := lt_iff_position_lt hx hy
  have heq := eq_iff_eq_or_isZero hx hy
  rw [← position_eq_iff] at heq
  simp only [compare, compareOfLessAndEq, hlt, heq]
  cases x.isZero <;> cases y.isZero <;> simp

end Double

end EventFilter
