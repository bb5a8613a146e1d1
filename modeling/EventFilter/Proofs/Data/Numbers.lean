import EventFilter.Proofs.Data.ByKind
import EventFilter.Proofs.Data.Operators
import Mathlib.Algebra.Order.Field.Rat
import Mathlib.Order.WithBot
import Mathlib.Tactic.ByContra
import Mathlib.Tactic.FieldSimp
import Mathlib.Tactic.NormNum

/-! Literals as the numbers that they stand for. Integers and doubles, whatever their kinds, are
compared as these numbers are, so that all but the NaNs are in one order. -/

namespace EventFilter

/-- The rational numbers with an infinity of either sign. -/
abbrev ExtendedRat : Type := WithBot (WithTop ℚ)

def ExtendedRat.finite (q : ℚ) : ExtendedRat := ((q : WithTop ℚ) : WithBot (WithTop ℚ))

theorem ExtendedRat.bot_lt_finite (q : ℚ) : ⊥ < finite q := WithBot.bot_lt_coe _

theorem ExtendedRat.finite_lt_top (q : ℚ) : finite q < ⊤ :=
  WithBot.coe_lt_coe.mpr (WithTop.coe_lt_top q)

theorem ExtendedRat.finite_lt_finite {p q : ℚ} : finite p < finite q ↔ p < q :=
  WithBot.coe_lt_coe.trans WithTop.coe_lt_coe

namespace Double

variable {x : Double} {m n u : Int}

/-! ### Doubles -/

/-- The number that the bits denote, by the parts of the format. The last exponent is that of the
infinities and the NaNs, and the first one has no hidden bit. -/
def value? (x : Double) : Option ExtendedRat :=
  let sign : ℚ := if x.isNegative then -1 else 1
  if x.exponentField = 2047 then
    if x.fraction = 0 then some (if x.isNegative then ⊥ else ⊤) else none
  else if x.exponentField = 0 then
    some (.finite (sign * (x.fraction / 2 ^ 52) * 2 ^ (-1022 : Int)))
  else
    some (.finite (sign * (1 + x.fraction / 2 ^ 52) * 2 ^ (x.exponentField - 1023 : Int)))

/-- The number that units stand for. -/
def ofUnits (u : Int) : ExtendedRat :=
  if u = infinityUnits then ⊤ else if u = -infinityUnits then ⊥ else .finite (u / one)

theorem ofUnits_of_natAbs_lt (h : u.natAbs < infinityUnits) :
    ofUnits u = .finite (u / one) := by
  rw [ofUnits, if_neg (by omega), if_neg (by omega)]

theorem ofUnits_lt_ofUnits (hm : m.natAbs ≤ infinityUnits) (hn : n.natAbs ≤ infinityUnits)
    (h : m < n) : ofUnits m < ofUnits n := by
  have hone : (0 : ℚ) < one := Int.cast_pos.mpr one_pos
  have htop : ofUnits infinityUnits = ⊤ := if_pos rfl
  by_cases hntop : n = infinityUnits
  · rw [hntop, htop, ofUnits, if_neg (by omega)]
    split
    · exact bot_lt_top
    · exact ExtendedRat.finite_lt_top _
  · rw [ofUnits_of_natAbs_lt (u := n) (by omega), ofUnits, if_neg (by omega)]
    split
    · exact ExtendedRat.bot_lt_finite _
    · exact ExtendedRat.finite_lt_finite.mpr
        (div_lt_div_of_pos_right (Int.cast_lt.mpr h) hone)

theorem compare_ofUnits (hm : m.natAbs ≤ infinityUnits) (hn : n.natAbs ≤ infinityUnits) :
    compare (ofUnits m) (ofUnits n) = compare m n := by
  rcases Int.lt_trichotomy m n with h | rfl | h
  · rw [compare_lt_iff_lt.mpr h, compare_lt_iff_lt.mpr (ofUnits_lt_ofUnits hm hn h)]
  · rw [compare_eq_iff_eq.mpr rfl, compare_eq_iff_eq.mpr rfl]
  · rw [compare_gt_iff_gt.mpr h, compare_gt_iff_gt.mpr (ofUnits_lt_ofUnits hn hm h)]

theorem natAbs_units?_le (h : x.units? = some u) : u.natAbs ≤ infinityUnits := by
  have hnatAbs : u.natAbs = x.absUnits := by
    rw [units?_eq_some h]
    split <;> simp
  rw [hnatAbs]
  by_cases he : x.exponentField = 2047
  · have hf : x.fraction = 0 := by
      by_contra hne
      exact not_isNaN_of_units? h (isNaN_iff.mpr ⟨he, hne⟩)
    exact Nat.le_of_eq (absUnits_of_isInfinite (isInfinite_iff.mpr ⟨he, hf⟩))
  · exact Nat.le_of_lt (absUnits_lt_infinityUnits he)

theorem cast_one_shiftLeft (k : Nat) : ((1 <<< k : Nat) : ℚ) = 2 ^ k := by
  rw [Nat.one_shiftLeft, Nat.cast_pow, Nat.cast_ofNat]

theorem cast_one : ((one : Nat) : ℚ) = 2 ^ 1074 := cast_one_shiftLeft 1074

theorem absUnits_div_one_of_subnormal (h : x.exponentField = 0) :
    (x.absUnits / one : ℚ) = x.fraction / 2 ^ 52 * 2 ^ (-1022 : Int) := by
  have hpow : (2 : ℚ) ^ (-1022 : Int) = 1 / 2 ^ 1022 := by
    rw [zpow_neg, one_div]
    exact congrArg _ (zpow_natCast 2 1022)
  have hsplit : (2 : ℚ) ^ 1074 = 2 ^ 52 * 2 ^ 1022 := by rw [← pow_add]
  rw [absUnits_of_subnormal h, cast_one, hpow, hsplit, mul_one_div, div_div]

theorem absUnits_div_one_of_normal (h : x.exponentField ≠ 0) :
    (x.absUnits / one : ℚ) = (1 + x.fraction / 2 ^ 52) * 2 ^ (x.exponentField - 1023 : Int) := by
  obtain ⟨k, hk⟩ := Nat.exists_eq_succ_of_ne_zero h
  have hpow : (2 : ℚ) ^ (x.exponentField - 1023 : Int) = 2 ^ k / 2 ^ 1022 := by
    rw [hk, ← zpow_natCast, ← zpow_natCast, ← zpow_sub₀ (by decide)]
    congr 1
    omega
  rw [hpow, absUnits, significand_of_normal h, cast_one, hk, Nat.shiftLeft_eq]
  push_cast [hiddenBit]
  field_simp
  norm_num

theorem cast_signed (negative : Bool) (a : Nat) :
    ((if negative then -(a : Int) else a : Int) : ℚ) = (if negative then -1 else 1) * a := by
  cases negative <;> simp

theorem value?_eq_units (x : Double) : x.value? = x.units?.map ofUnits := by
  have hinfinity : 0 < infinityUnits := by decide +kernel
  simp only [value?]
  by_cases he : x.exponentField = 2047
  · by_cases hf : x.fraction = 0
    · have hnan : ¬ x.isNaN := fun h => (isNaN_iff.mp h).2 hf
      have hbot : ofUnits (-infinityUnits) = ⊥ := by
        rw [ofUnits, if_neg (by omega), if_pos rfl]
      rw [units?, if_neg hnan, absUnits_of_isInfinite (isInfinite_iff.mpr ⟨he, hf⟩)]
      cases x.isNegative
      · simp [he, hf, ofUnits]
      · simp [he, hf, hbot]
    · rw [units?_eq_none_iff.mpr (isNaN_iff.mpr ⟨he, hf⟩)]
      simp [he, hf]
  · have hnan : ¬ x.isNaN := fun h => he (isNaN_iff.mp h).1
    have hlt := absUnits_lt_infinityUnits he
    rw [units?, if_neg hnan, Option.map_some, ofUnits_of_natAbs_lt (by split <;> omega),
      cast_signed, mul_div_assoc, if_neg he]
    by_cases h0 : x.exponentField = 0
    · rw [if_pos h0, absUnits_div_one_of_subnormal h0, ← mul_assoc]
    · rw [if_neg h0, absUnits_div_one_of_normal h0, ← mul_assoc]

theorem natAbs_mul_one_lt (h : n.natAbs ≤ 2 ^ 64) : (n * one).natAbs < infinityUnits := by
  have hbeyond : 2 ^ 64 * one < infinityUnits := by decide +kernel
  rw [Int.natAbs_mul, Int.natAbs_natCast]
  exact Nat.lt_of_le_of_lt (Nat.mul_le_mul_right _ h) hbeyond

/-- Integers of 64 bits stand for themselves. -/
theorem ofUnits_mul_one (h : n.natAbs ≤ 2 ^ 64) : ofUnits (n * one) = .finite n := by
  have hone : (one : ℚ) ≠ 0 := Int.cast_ne_zero.mpr (ne_of_gt one_pos)
  rw [ofUnits_of_natAbs_lt (natAbs_mul_one_lt h), Int.cast_mul, Int.cast_natCast,
    mul_div_cancel_right₀ _ hone]

end Double

namespace Data

variable {a b : Data} {v w : ExtendedRat} {n : Int}

/-! ### Literals -/

def isNumeric : Data → Bool
  | int64 _ | uint64 _ | double _ => true
  | _ => false

def isNaN : Data → Bool
  | double x => x.isNaN
  | _ => false

/-- The number that a literal stands for. -/
def number? : Data → Option ExtendedRat
  | int64 n => some (.finite n.toInt)
  | uint64 n => some (.finite n.toNat)
  | double x => x.value?
  | _ => none

theorem units?_of_isNumeric (h : a.isNumeric) :
    (∃ n : Int, n.natAbs ≤ 2 ^ 64 ∧ a.units? = some (n * Double.one) ∧
      a.number? = some (.finite n)) ∨ ∃ x, a = double x := by
  cases a <;> simp [isNumeric] at h
  case int64 n =>
    have hlow := n.le_toInt
    have hhigh := n.toInt_lt
    exact .inl ⟨n.toInt, by omega, rfl, rfl⟩
  case uint64 n =>
    have hhigh := n.toNat_lt
    exact .inl ⟨n.toNat, by omega, rfl, by rw [number?, Int.cast_natCast]⟩
  case double x => exact .inr ⟨x, rfl⟩

theorem isNumeric_of_units? (h : a.units? = some n) : a.isNumeric := by
  cases a <;> simp [units?] at h <;> rfl

theorem isNumeric_of_number? (h : a.number? = some v) : a.isNumeric := by
  cases a <;> simp [number?] at h <;> rfl

theorem number?_eq_units (h : a.isNumeric) : a.number? = a.units?.map Double.ofUnits := by
  obtain ⟨n, hn, hunits, hnumber⟩ | ⟨x, rfl⟩ := units?_of_isNumeric h
  · rw [hnumber, hunits, Option.map_some, Double.ofUnits_mul_one hn]
  · exact x.value?_eq_units

theorem natAbs_units?_le (h : a.units? = some n) : n.natAbs ≤ Double.infinityUnits := by
  obtain ⟨k, hk, hunits, -⟩ | ⟨x, rfl⟩ := units?_of_isNumeric (isNumeric_of_units? h)
  · obtain rfl := Option.some.inj (hunits.symm.trans h)
    exact Nat.le_of_lt (Double.natAbs_mul_one_lt hk)
  · exact Double.natAbs_units?_le h

theorem number?_eq_none_iff (h : a.isNumeric) : a.number? = none ↔ a.isNaN := by
  rw [number?_eq_units h, Option.map_eq_none_iff]
  cases a <;> simp [isNumeric] at h
  case int64 | uint64 => simp [units?, isNaN]
  case double x => exact Double.units?_eq_none_iff

theorem order?_eq_units (ha : a.isNumeric) (hb : b.isNumeric) : a.order? b =
    match a.units?, b.units? with
    | some m, some n => some (compare m n)
    | _, _ => none := by
  cases a <;> simp [isNumeric] at ha <;> cases b <;> simp [isNumeric] at hb <;> rfl

/-- Literals are in the order of the numbers that they stand for. -/
theorem order?_of_number? (ha : a.number? = some v) (hb : b.number? = some w) :
    a.order? b = some (compare v w) := by
  have hna := isNumeric_of_number? ha
  have hnb := isNumeric_of_number? hb
  rw [number?_eq_units hna, Option.map_eq_some_iff] at ha
  rw [number?_eq_units hnb, Option.map_eq_some_iff] at hb
  obtain ⟨m, hm, rfl⟩ := ha
  obtain ⟨n, hn, rfl⟩ := hb
  rw [order?_eq_units hna hnb, hm, hn,
    Double.compare_ofUnits (natAbs_units?_le hm) (natAbs_units?_le hn)]

theorem orderByKind?_of_number? (ha : a.number? = some v) (hb : b.number? = some w) :
    a.orderByKind? b = some (compare v w) := by
  rw [orderByKind?_eq_order?, order?_of_number? ha hb]

theorem orderByKind?_eq_none_iff (ha : a.isNumeric) (hb : b.isNumeric) :
    a.orderByKind? b = none ↔ a.isNaN ∨ b.isNaN := by
  rw [← number?_eq_none_iff ha, ← number?_eq_none_iff hb, number?_eq_units ha,
    number?_eq_units hb, orderByKind?_eq_order?, order?_eq_units ha hb, Option.map_eq_none_iff,
    Option.map_eq_none_iff]
  cases a.units? <;> cases b.units? <;> simp

/-- Whether a literal comes before another or is equal to it. -/
def atMost (a b : Data) : Bool := (a.orderByKind? b).any (·.isLE)

theorem atMost_iff (ha : a.number? = some v) (hb : b.number? = some w) :
    a.atMost b ↔ v ≤ w := by
  rw [atMost, orderByKind?_of_number? ha hb, Option.any_some, Ordering.isLE_iff_ne_gt]
  exact compare_gt_iff_gt.not.trans not_lt

theorem holds_of_number? {op : Operator} {accepts : Ordering → Bool} (ha : a.number? = some v)
    (hb : b.number? = some w) (hop : op.accepts? = some accepts) :
    a.holds op b = accepts (compare v w) :=
  holds_of_order?_eq_some (order?_of_number? ha hb) hop

/-- Two literals of the numeric kinds are in no order if either is a NaN, and are otherwise in that
of the numbers that they stand for. So all but the NaNs are in one order of all these kinds, in
which literals are equal when their numbers are, and which the relations agree with. -/
theorem numbers_compare_exactly_across_kinds (ha : a.isNumeric) (hb : b.isNumeric) :
    (a.number? = none ↔ a.isNaN) ∧
    (a.orderByKind? b = none ↔ a.isNaN ∨ b.isNaN) ∧
    ∀ u v, a.number? = some u → b.number? = some v →
      a.orderByKind? b = some (compare u v) ∧
      (a.atMost a ∧ (a.atMost b ∨ b.atMost a) ∧ (a.atMost b ∧ b.atMost a ↔ u = v) ∧
        ∀ c w, c.number? = some w → a.atMost b → b.atMost c → a.atMost c) ∧
      (a.holds .equal b ↔ u = v) ∧ (a.holds .notEqual b ↔ u ≠ v) ∧
      (a.holds .less b ↔ u < v) ∧ (a.holds .lessEqual b ↔ u ≤ v) ∧
      (a.holds .greater b ↔ v < u) ∧ (a.holds .greaterEqual b ↔ v ≤ u) := by
  refine ⟨number?_eq_none_iff ha, orderByKind?_eq_none_iff ha hb, fun u v hu hv => ?_⟩
  refine ⟨orderByKind?_of_number? hu hv, ⟨?_, ?_, ?_, ?_⟩, ?_⟩
  · exact (atMost_iff hu hu).mpr (le_refl u)
  · rw [atMost_iff hu hv, atMost_iff hv hu]
    exact le_total u v
  · rw [atMost_iff hu hv, atMost_iff hv hu]
    exact le_antisymm_iff.symm
  · intro c w hw
    rw [atMost_iff hu hv, atMost_iff hv hw, atMost_iff hu hw]
    exact le_trans
  · refine ⟨?_, ?_, ?_, ?_, ?_, ?_⟩ <;> rw [holds_of_number? hu hv rfl, decide_eq_true_iff]
    · exact compare_eq_iff_eq
    · exact compare_eq_iff_eq.not
    · exact compare_lt_iff_lt
    · exact compare_gt_iff_gt.not.trans not_lt
    · exact compare_gt_iff_gt
    · exact compare_lt_iff_lt.not.trans not_lt

/-- The integer after `2 ^ 53` is not a double, and the double nearest to it is `2 ^ 53`. -/
theorem integer_is_above_nearest_double :
    let integer : Data := .uint64 9007199254740993
    let nearest : Data := .double ⟨0x4340000000000000⟩
    let nan : Data := .double ⟨0x7ff8000000000000⟩
    integer.isNumeric ∧ nearest.isNumeric ∧ nan.isNumeric ∧
    integer.number? = some (.finite 9007199254740993) ∧
    nearest.number? = some (.finite 9007199254740992) ∧
    integer.orderByKind? nearest = some .gt ∧ integer.holds .greater nearest ∧
    integer.orderByKind? nan = none := by
  intro integer nearest nan
  have hi : integer.isNumeric := rfl
  have hn : nearest.isNumeric := rfl
  have hnan : nan.isNumeric := rfl
  have hinteger : integer.number? = some (.finite 9007199254740993) := by
    simp [integer, number?]
  have hnearest : nearest.number? = some (.finite 9007199254740992) := by
    have hexponent : (⟨0x4340000000000000⟩ : Double).exponentField = 1076 := by decide
    have hfraction : (⟨0x4340000000000000⟩ : Double).fraction = 0 := by decide
    have hsign : (⟨0x4340000000000000⟩ : Double).isNegative = false := by decide
    simp only [nearest, number?, Double.value?, hexponent, hfraction, hsign]
    norm_num
  have hgreater := ExtendedRat.finite_lt_finite.mpr
    (show (9007199254740992 : ℚ) < 9007199254740993 by norm_num)
  obtain ⟨-, -, hvalues⟩ := numbers_compare_exactly_across_kinds hi hn
  obtain ⟨horder, -, -, -, -, -, habove, -⟩ := hvalues _ _ hinteger hnearest
  obtain ⟨-, hnone, -⟩ := numbers_compare_exactly_across_kinds hi hnan
  refine ⟨hi, hn, hnan, hinteger, hnearest, ?_, habove.mpr hgreater, hnone.mpr (.inr ?_)⟩
  · rw [horder, compare_gt_iff_gt.mpr hgreater]
  · decide

end Data

end EventFilter
