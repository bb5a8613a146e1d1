import EventFilter.Double.Arithmetic
import EventFilter.Proofs.Double

/-! The arithmetic of bits against the numbers that they stand for. The order is that of the
numbers, the whole part is exact, and a difference has the sign that it has without rounding. -/

namespace EventFilter.Double

variable {x y : Double} {m n u : Int} {negative : Bool} {b : Nat}

/-! ### Numbers from their bits -/

theorem toNat_bits_ofMagnitude (hb : b < signBit) :
    (ofMagnitude negative b).bits.toNat = if negative then signBit + b else b := by
  unfold signBit at hb
  have hlt : (if negative then signBit + b else b) < 2 ^ 64 := by
    unfold signBit
    split <;> omega
  exact UInt64.toNat_ofNat_of_lt' hlt

@[simp] theorem isNegative_ofMagnitude (hb : b < signBit) :
    (ofMagnitude negative b).isNegative = negative := by
  rw [isNegative, toNat_bits_ofMagnitude hb]
  cases negative with
  | false => simpa using hb
  | true => simp

@[simp] theorem magnitude_ofMagnitude (hb : b < signBit) :
    (ofMagnitude negative b).magnitude = b := by
  rw [magnitude, toNat_bits_ofMagnitude hb]
  cases negative <;> simp [Nat.mod_eq_of_lt hb]

theorem magnitude_lt (x : Double) : x.magnitude < signBit := Nat.mod_lt _ (by decide)

theorem exponentField_le (x : Double) : x.exponentField ≤ 2047 := by
  have hlt := x.magnitude_lt
  unfold signBit at hlt
  unfold exponentField hiddenBit
  omega

theorem isNaN_iff : x.isNaN ↔ x.exponentField = 2047 ∧ x.fraction ≠ 0 := by
  have hle := x.exponentField_le
  have heq := x.magnitude_eq
  have hlt := x.fraction_lt
  rw [isNaN, decide_eq_true_iff, infinityMagnitude]
  unfold hiddenBit at *
  omega

theorem isInfinite_iff : x.isInfinite ↔ x.exponentField = 2047 ∧ x.fraction = 0 := by
  have heq := x.magnitude_eq
  have hlt := x.fraction_lt
  rw [isInfinite, decide_eq_true_iff, infinityMagnitude]
  unfold hiddenBit at *
  omega

/-- What an infinity counts as, in units. -/
def infinityUnits : Nat := hiddenBit <<< 2046

theorem absUnits_of_isInfinite (h : x.isInfinite) : x.absUnits = infinityUnits := by
  obtain ⟨he, hf⟩ := isInfinite_iff.mp h
  rw [absUnits, significand_of_normal (by omega), he, hf]
  rfl

theorem absUnits_lt_infinityUnits (h : x.exponentField ≠ 2047) : x.absUnits < infinityUnits := by
  have hle := x.exponentField_le
  exact Nat.lt_of_lt_of_le x.absUnits_lt (shiftLeft_le_shiftLeft_of_le _ (by omega))

theorem infinityMagnitude_lt : infinityMagnitude < signBit := by decide

theorem units?_of_magnitude_le (h : x.magnitude ≤ infinityMagnitude) :
    x.units? = some (if x.isNegative then -(x.absUnits : Int) else x.absUnits) := by
  rw [units?, if_neg (by simpa [isNaN] using h)]

theorem magnitude_le_of_units? (h : x.units? = some u) : x.magnitude ≤ infinityMagnitude := by
  simpa [isNaN] using not_isNaN_of_units? h

/-! ### Order -/

theorem order?_eq_units (x y : Double) : x.order? y =
    match x.units?, y.units? with
    | some m, some n => some (compare m n)
    | _, _ => none := by
  unfold order?
  cases hx : x.units? with
  | none => simp [units?_eq_none_iff.mp hx]
  | some m =>
    cases hy : y.units? with
    | none => simp [units?_eq_none_iff.mp hy]
    | some n =>
      rw [if_neg (by simp [not_isNaN_of_units? hx, not_isNaN_of_units? hy])]
      exact congrArg some (compare_units hx hy).symm

theorem order?_of_units? (hx : x.units? = some m) (hy : y.units? = some n) :
    x.order? y = some (compare m n) := by
  rw [order?_eq_units, hx, hy]

/-! ### Whole parts -/

theorem absUnits_lt_one (h : x.exponentField < 1023) : x.absUnits < one := by
  calc x.absUnits < hiddenBit <<< x.exponentField := x.absUnits_lt
    _ ≤ hiddenBit <<< 1022 := shiftLeft_le_shiftLeft_of_le _ (by omega)
    _ = one := by decide +kernel

theorem shiftRight_shiftLeft_le (n k : Nat) : n >>> k <<< k ≤ n := by
  rw [Nat.shiftRight_eq_div_pow, Nat.shiftLeft_eq]
  exact Nat.div_mul_le_self _ _

/-- Clearing low bits of the fraction leaves the other bits alone. -/
theorem hiddenBit_mul_add_clear (e f : Nat) {k : Nat} (hk : k ≤ 52) :
    (hiddenBit * e + f) >>> k <<< k = hiddenBit * e + f >>> k <<< k := by
  have hhidden : hiddenBit * e = 2 ^ k * (2 ^ (52 - k) * e) := by
    rw [← Nat.mul_assoc, ← Nat.pow_add, Nat.add_sub_cancel' hk]
    rfl
  simp only [Nat.shiftRight_eq_div_pow, Nat.shiftLeft_eq]
  rw [hhidden, Nat.mul_add_div (Nat.two_pow_pos k), Nat.add_mul, Nat.mul_comm (2 ^ k)]

/-- The multiples of a power of two that a significand and its exponent hold. -/
theorem shiftLeft_div_mul (s a c : Nat) :
    s <<< a / 1 <<< c * 1 <<< c = (s >>> (c - a) <<< (c - a)) <<< a := by
  simp only [Nat.shiftRight_eq_div_pow, Nat.shiftLeft_eq, Nat.one_mul]
  by_cases ha : a ≤ c
  · have hpow : 2 ^ c = 2 ^ (c - a) * 2 ^ a := by rw [← Nat.pow_add, Nat.sub_add_cancel ha]
    rw [hpow, Nat.mul_div_mul_right _ _ (Nat.two_pow_pos a), Nat.mul_assoc]
  · have hdvd : 2 ^ c ∣ s * 2 ^ a := Nat.dvd_mul_left_of_dvd (Nat.pow_dvd_pow 2 (by omega)) s
    rw [Nat.div_mul_cancel hdvd, Nat.sub_eq_zero_of_le (by omega)]
    simp

theorem exponentField_eq_of_magnitude {e f : Nat} (h : x.magnitude = hiddenBit * e + f)
    (hf : f < hiddenBit) : x.exponentField = e := by
  rw [exponentField, h, Nat.mul_add_div (by decide), Nat.div_eq_of_lt hf, Nat.add_zero]

theorem fraction_eq_of_magnitude {e f : Nat} (h : x.magnitude = hiddenBit * e + f)
    (hf : f < hiddenBit) : x.fraction = f := by
  rw [fraction, h, Nat.mul_add_mod, Nat.mod_eq_of_lt hf]

theorem isNegative_trunc (x : Double) : x.trunc.isNegative = x.isNegative := by
  unfold trunc
  have hlt := x.magnitude_lt
  have hle := shiftRight_shiftLeft_le x.magnitude (1075 - x.exponentField)
  split <;> exact isNegative_ofMagnitude (by omega)

theorem magnitude_trunc_of_lt (h : x.exponentField < 1023) : x.trunc.magnitude = 0 := by
  rw [trunc, if_pos h, magnitude_ofMagnitude (by decide)]

theorem magnitude_trunc_of_le (h : 1023 ≤ x.exponentField) :
    x.trunc.magnitude = x.magnitude >>> (1075 - x.exponentField) <<< (1075 - x.exponentField) := by
  have hle := shiftRight_shiftLeft_le x.magnitude (1075 - x.exponentField)
  rw [trunc, if_neg (by omega), magnitude_ofMagnitude (Nat.lt_of_le_of_lt hle x.magnitude_lt)]

theorem magnitude_trunc_le (x : Double) : x.trunc.magnitude ≤ x.magnitude := by
  by_cases he : x.exponentField < 1023
  · rw [magnitude_trunc_of_lt he]
    exact Nat.zero_le _
  · rw [magnitude_trunc_of_le (by omega)]
    exact shiftRight_shiftLeft_le _ _

theorem absUnits_trunc (x : Double) : x.trunc.absUnits = x.absUnits / one * one := by
  by_cases he : x.exponentField < 1023
  · rw [Nat.div_eq_of_lt (absUnits_lt_one he), Nat.zero_mul, absUnits_eq_zero_iff,
      magnitude_trunc_of_lt he]
  · have hk : 1075 - x.exponentField ≤ 52 := by omega
    have hmagnitude := magnitude_trunc_of_le (x := x) (by omega)
    rw [x.magnitude_eq, hiddenBit_mul_add_clear _ _ hk] at hmagnitude
    have hfraction : x.fraction >>> (1075 - x.exponentField) <<< (1075 - x.exponentField) <
        hiddenBit := Nat.lt_of_le_of_lt (shiftRight_shiftLeft_le _ _) x.fraction_lt
    have hexponent := exponentField_eq_of_magnitude hmagnitude hfraction
    have hsignificand : x.trunc.significand =
        x.significand >>> (1075 - x.exponentField) <<< (1075 - x.exponentField) := by
      rw [significand_of_normal (by omega), significand_of_normal (by omega),
        fraction_eq_of_magnitude hmagnitude hfraction]
      simpa using (hiddenBit_mul_add_clear 1 x.fraction hk).symm
    have hshift := shiftLeft_div_mul x.significand (x.exponentField - 1) 1074
    rw [show 1074 - (x.exponentField - 1) = 1075 - x.exponentField by omega] at hshift
    rw [absUnits, hsignificand, hexponent, ← hshift]
    rfl

/-- The whole part is the number without what it has beyond a multiple of one. -/
theorem units?_trunc (h : x.units? = some u) : x.trunc.units? = some (u.tdiv one * one) := by
  have hle := Nat.le_trans x.magnitude_trunc_le (magnitude_le_of_units? h)
  rw [units?_of_magnitude_le hle, x.isNegative_trunc, x.absUnits_trunc, units?_eq_some h]
  cases x.isNegative with
  | false => rfl
  | true => simp only [if_true, Int.neg_tdiv, Int.neg_mul, Int.natCast_mul, Int.natCast_ediv,
      Int.natCast_tdiv_eq_ediv]

theorem toInt_eq (h : x.units? = some (n * one)) (hn : n.natAbs ≤ 0x10000000000000000) :
    x.toInt = n := by
  rw [toInt, h]
  simp only [Int.mul_tdiv_cancel _ (Int.ne_of_gt one_pos)]
  omega

/-! ### Differences -/

theorem div_le_nearestQuotient (n d : Nat) : n / d ≤ nearestQuotient n d := by
  unfold nearestQuotient
  split <;> omega

theorem nearestMagnitude_pos {n : Nat} (h : n ≠ 0) : 0 < nearestMagnitude n := by
  have hpow : 1 <<< (n.log2 - 52) ≤ n := by
    rw [Nat.one_shiftLeft]
    exact Nat.le_trans (Nat.pow_le_pow_right (by decide) (Nat.sub_le _ _)) (Nat.log2_self_le h)
  have hpos : 0 < 1 <<< (n.log2 - 52) := by
    rw [Nat.one_shiftLeft]
    exact Nat.two_pow_pos _
  have hquotient : 0 < nearestQuotient n (1 <<< (n.log2 - 52)) :=
    Nat.lt_of_lt_of_le (Nat.div_pos hpow hpos) (div_le_nearestQuotient _ _)
  have hinfinity : 0 < infinityMagnitude := by decide
  exact Nat.lt_min.mpr ⟨hinfinity, Nat.lt_of_lt_of_le hquotient (Nat.le_add_left _ _)⟩

theorem nearestMagnitude_le (n : Nat) : nearestMagnitude n ≤ infinityMagnitude :=
  Nat.min_le_left _ _

theorem exists_units?_ofMagnitude (hb : b ≤ infinityMagnitude) :
    ∃ u, (ofMagnitude negative b).units? = some u ∧
      compare 0 u = if b = 0 then .eq else if negative then .gt else .lt := by
  have hlt := Nat.lt_of_le_of_lt hb infinityMagnitude_lt
  have hzero := absUnits_eq_zero_iff (x := ofMagnitude negative b)
  rw [magnitude_ofMagnitude hlt] at hzero
  refine ⟨_, units?_of_magnitude_le (by rwa [magnitude_ofMagnitude hlt]), ?_⟩
  rw [isNegative_ofMagnitude hlt]
  by_cases hb0 : b = 0
  · subst hb0
    simp [hzero.mpr rfl]
  · have hpos : 0 < (ofMagnitude negative b).absUnits := Nat.pos_of_ne_zero (mt hzero.mp hb0)
    cases negative with
    | false => simp [hb0, Int.compare_eq_lt, hpos]
    | true => simp [hb0, Int.compare_eq_gt, hpos]

/-- Rounding never reaches zero, so that a difference has the sign that it has without rounding. -/
theorem exists_units?_sub (hx : x.units? = some m) (hy : y.units? = some n)
    (hxi : x.isInfinite = false) (hyi : y.isInfinite = false) :
    ∃ u, (x.sub y).units? = some u ∧ compare 0 u = compare n m := by
  have hsub : x.sub y = if m = n then ofMagnitude (x.isNegative && !y.isNegative) 0
      else ofMagnitude (m < n) (nearestMagnitude (m - n).natAbs) := by
    simp [sub, hx, hy, hxi, hyi]
  rw [hsub]
  by_cases heq : m = n
  · rw [if_pos heq]
    obtain ⟨u, hu, hcompare⟩ := exists_units?_ofMagnitude (Nat.zero_le infinityMagnitude)
    exact ⟨u, hu, by simp [hcompare, heq]⟩
  · rw [if_neg heq]
    obtain ⟨u, hu, hcompare⟩ := exists_units?_ofMagnitude (nearestMagnitude_le (m - n).natAbs)
    have hne : nearestMagnitude (m - n).natAbs ≠ 0 :=
      Nat.ne_of_gt (nearestMagnitude_pos (by omega))
    refine ⟨u, hu, ?_⟩
    rw [hcompare, if_neg hne]
    by_cases hlt : m < n
    · simp [hlt, Int.compare_eq_gt.mpr hlt]
    · simp [hlt, Int.compare_eq_lt.mpr (show n < m by omega)]

end EventFilter.Double
