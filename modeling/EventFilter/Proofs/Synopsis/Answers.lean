import EventFilter.Proofs.Synopsis.Coverage

/-! What the built-in synopses answer, against the values that they have seen. Two flags say all
about booleans. Two bounds decide every ordering of times, but where no time was seen; that a time
asked for lies between them does not say that it was seen. -/

namespace EventFilter

/-! ### Columns offered one after the other -/

namespace Synopsis

/-- The synopsis after all columns were offered to it. One that it refuses changes nothing. -/
def addAll (s : Synopsis) : List Column → Synopsis
  | [] => s
  | c :: rest =>
    match s.add c with
    | .ok t => t.addAll rest
    | .error _ => s.addAll rest

/-- The cells of the columns that it takes. -/
def takenCells (s : Synopsis) : List Column → List Cell
  | [] => []
  | c :: rest =>
    match s.add c with
    | .ok t => c.cells ++ t.takenCells rest
    | .error _ => s.takenCells rest

theorem add_eq_ok {s t : Synopsis} {c : Column} (h : s.add c = .ok t) : t = s.absorb c.cells := by
  unfold add at h
  split at h
  · exact (Except.ok.inj h).symm
  · simp at h

theorem addAll_eq_absorb (s : Synopsis) (columns : List Column) :
    s.addAll columns = s.absorb (s.takenCells columns) := by
  induction columns generalizing s with
  | nil => exact (absorb_eq_foldl s []).symm
  | cons c rest ih =>
    cases hc : s.add c with
    | ok t => simp only [addAll, takenCells, hc, ih, add_eq_ok hc, absorb_append]
    | error err => simp only [addAll, takenCells, hc, ih]

end Synopsis

/-! ### Comparisons of times -/

namespace Data

variable {v x : Int64}

theorem holds_equal_time : (time v).holds .equal (time x) ↔ v = x := by
  simp [holds, equals, order?, Int64.toInt_inj]

theorem holds_notEqual_time : (time v).holds .notEqual (time x) ↔ v ≠ x := by
  simp [holds, equals, order?, Int64.toInt_inj]

theorem holds_less_time : (time v).holds .less (time x) ↔ v < x := by
  simp [holds, order?, Int64.lt_iff_toInt_lt, Int.compare_eq_lt]

theorem holds_lessEqual_time : (time v).holds .lessEqual (time x) ↔ v ≤ x := by
  simp [holds, order?, Int64.le_iff_toInt_le, Int.compare_eq_lt, Int.le_iff_lt_or_eq]

theorem holds_greater_time : (time v).holds .greater (time x) ↔ x < v := by
  simp [holds, order?, Int64.lt_iff_toInt_lt, Int.compare_eq_gt]

theorem holds_greaterEqual_time : (time v).holds .greaterEqual (time x) ↔ x ≤ v := by
  rw [Int64.le_iff_toInt_le, Int.le_iff_lt_or_eq, eq_comm (a := x.toInt)]
  simp [holds, order?, Int.compare_eq_gt]

theorem holds_equal_bool {a b : Bool} : (bool a).holds .equal (bool b) ↔ a = b := by
  simp [holds, equals, order?, units?]

theorem holds_isIn_times {xs : List Int64} :
    (time v).holds .isIn (list (xs.map time)) ↔ v ∈ xs := by
  simp [holds, contains, equals, order?, Int64.toInt_inj]

end Data

/-! ### Bounds of times -/

/-- A fold has a property that a combination has from one of its parts iff some value has it or, of
no values, the start. Every value has it if the start does. -/
theorem foldl_iff {f : Int64 → Int64 → Int64} {p : Int64 → Prop} {start : Int64}
    (hf : ∀ a b, p (f a b) ↔ p a ∨ p b) (hstart : ∀ v, p start → p v) (values : List Int64) :
    p (values.foldl f start) ↔ (∃ v ∈ values, p v) ∨ values = [] ∧ p start := by
  -- the start changes along the fold, so the induction is for any of them
  have hfold (a : Int64) : p (values.foldl f a) ↔ p a ∨ ∃ v ∈ values, p v := by
    induction values generalizing a with
    | nil => simp
    | cons v rest ih => simp [ih, hf, or_assoc]
  rw [hfold]
  cases values with
  | nil => simp
  | cons v rest =>
    have hfirst : p start → ∃ u ∈ v :: rest, p u := fun h => ⟨v, List.mem_cons_self, hstart v h⟩
    simp only [or_iff_right_of_imp hfirst, reduceCtorEq, false_and, or_false]

namespace TimeSynopsis

/-- The range of the values. Of no values it is that of an empty synopsis. -/
def ofValues (t : DataType) (values : List Int64) : TimeSynopsis :=
  ⟨t, values.foldl Min.min Int64.maxValue, values.foldl Max.max Int64.minValue⟩

theorem widen_eq_ofValues (t : DataType) (cells : List Cell) :
    ({ type := t } : TimeSynopsis).widen cells = ofValues t (cells.filterMap Cell.time?) := by
  rw [widen_eq_foldl, foldl_see]
  rfl

variable {t : DataType} {values : List Int64} {x : Int64}

theorem min_lt_iff : (ofValues t values).min < x ↔ ∃ v ∈ values, v < x := by
  have hmin (a b : Int64) : Min.min a b < x ↔ a < x ∨ b < x := by
    simp only [Int64.lt_iff_toInt_lt, toInt_min]
    omega
  have hlast : ¬ Int64.maxValue < x := Int64.not_lt.mpr (Int64.le_maxValue x)
  have hfold := foldl_iff (p := (· < x)) hmin (fun _ h => absurd h hlast) values
  exact hfold.trans (by simp [hlast])

theorem lt_max_iff : x < (ofValues t values).max ↔ ∃ v ∈ values, x < v := by
  have hmax (a b : Int64) : x < Max.max a b ↔ x < a ∨ x < b := by
    simp only [Int64.lt_iff_toInt_lt, toInt_max]
    omega
  have hfirst : ¬ x < Int64.minValue := Int64.not_lt.mpr (Int64.minValue_le x)
  have hfold := foldl_iff (p := (x < ·)) hmax (fun _ h => absurd h hfirst) values
  exact hfold.trans (by simp [hfirst])

theorem min_le_iff : (ofValues t values).min ≤ x ↔
    (∃ v ∈ values, v ≤ x) ∨ values = [] ∧ x = Int64.maxValue := by
  have hlast : Int64.maxValue ≤ x ↔ x = Int64.maxValue :=
    ⟨fun h => Int64.le_antisymm (Int64.le_maxValue x) h, fun h => h ▸ Int64.le_refl _⟩
  rw [← hlast]
  exact foldl_iff (p := (· ≤ x)) (fun _ _ => Std.min_le)
    (fun v h => Int64.le_trans (Int64.le_maxValue v) h) values

theorem le_max_iff : x ≤ (ofValues t values).max ↔
    (∃ v ∈ values, x ≤ v) ∨ values = [] ∧ x = Int64.minValue := by
  have hmax (a b : Int64) : x ≤ Max.max a b ↔ x ≤ a ∨ x ≤ b := by
    simp only [Int64.le_iff_toInt_le, toInt_max]
    omega
  have hfirst : x ≤ Int64.minValue ↔ x = Int64.minValue :=
    ⟨fun h => Int64.le_antisymm h (Int64.minValue_le x), fun h => h ▸ Int64.le_refl _⟩
  rw [← hfirst]
  exact foldl_iff (p := (x ≤ ·)) hmax (fun v h => Int64.le_trans h (Int64.minValue_le v)) values

/-- The value is between two of the list, or among them. -/
def Spans (values : List Int64) (x : Int64) : Prop :=
  ∃ low ∈ values, ∃ high ∈ values, low ≤ x ∧ x ≤ high

instance (values : List Int64) (x : Int64) : Decidable (Spans values x) := by
  unfold Spans
  infer_instance

theorem inRange_iff :
    (ofValues t values).min ≤ x ∧ x ≤ (ofValues t values).max ↔ Spans values x := by
  rw [min_le_iff, le_max_iff]
  cases values with
  | nil =>
    -- of no values, each bound is reached by one limit, but no time is both
    have hlimits : Int64.maxValue ≠ Int64.minValue := by decide
    simp only [Spans, List.not_mem_nil, false_and, exists_false, false_or, true_and, iff_false]
    rintro ⟨rfl, hx⟩
    exact hlimits hx
  | cons v rest =>
    simp only [reduceCtorEq, false_and, or_false, Spans]
    constructor
    · rintro ⟨⟨low, hlow, hle⟩, high, hhigh, hge⟩
      exact ⟨low, hlow, high, hhigh, hle, hge⟩
    · rintro ⟨low, hlow, high, hhigh, hle, hge⟩
      exact ⟨⟨low, hlow, hle⟩, high, hhigh, hge⟩

theorem isPoint_iff : (ofValues t values).min = x ∧ (ofValues t values).max = x ↔
    values ≠ [] ∧ ∀ v ∈ values, v = x := by
  have hpoint : (ofValues t values).min = x ∧ (ofValues t values).max = x ↔
      Spans values x ∧ (¬ ∃ v ∈ values, v < x) ∧ ¬ ∃ v ∈ values, x < v := by
    rw [← inRange_iff (t := t), ← min_lt_iff (t := t), ← lt_max_iff (t := t)]
    simp only [Int64.lt_iff_toInt_lt, Int64.le_iff_toInt_le, ← Int64.toInt_inj]
    omega
  rw [hpoint]
  constructor
  · rintro ⟨⟨low, hlow, -⟩, hbelow, habove⟩
    refine ⟨List.ne_nil_of_mem hlow, fun v hv => Int64.le_antisymm ?_ ?_⟩
    · exact Int64.not_lt.mp fun hlt => habove ⟨v, hv, hlt⟩
    · exact Int64.not_lt.mp fun hlt => hbelow ⟨v, hv, hlt⟩
  · rintro ⟨hne, hall⟩
    obtain ⟨v, hv⟩ := List.exists_mem_of_ne_nil values hne
    obtain rfl := hall v hv
    refine ⟨⟨v, hv, v, hv, Int64.le_refl _, Int64.le_refl _⟩, ?_, ?_⟩
    · rintro ⟨u, hu, hlt⟩
      exact Int64.lt_irrefl (hall u hu ▸ hlt)
    · rintro ⟨u, hu, hlt⟩
      exact Int64.lt_irrefl (hall u hu ▸ hlt)

theorem not_spans_iff : ¬ Spans values x ↔
    values = [] ∨ (∀ v ∈ values, x < v) ∨ ∀ v ∈ values, v < x := by
  constructor
  · intro hout
    by_cases hlow : ∃ low ∈ values, low ≤ x
    · obtain ⟨low, hlow, hle⟩ := hlow
      refine .inr (.inr fun v hv => Int64.not_le.mp fun hge => ?_)
      exact hout ⟨low, hlow, v, hv, hle, hge⟩
    · exact .inr (.inl fun v hv => Int64.not_le.mp fun hle => hlow ⟨v, hv, hle⟩)
  · rintro h ⟨low, hlow, high, hhigh, hle, hge⟩
    obtain rfl | habove | hbelow := h
    · simp at hlow
    · exact Int64.not_le.mpr (habove low hlow) hle
    · exact Int64.not_le.mpr (hbelow high hhigh) hge

/-! ### Answers -/

theorem lookupAny_times (s : TimeSynopsis) (xs : List Int64) :
    s.lookupAny (xs.map Data.time) = some (xs.any fun x => s.min ≤ x && x ≤ s.max) := by
  induction xs with
  | nil => rfl
  | cons x rest ih => simp [lookupAny, ih]

theorem exists_times_of_lookupAny {s : TimeSynopsis} {items : List Data} {b : Bool}
    (h : s.lookupAny items = some b) : ∃ xs : List Int64, items = xs.map Data.time := by
  induction items generalizing b with
  | nil => exact ⟨[], rfl⟩
  | cons item rest ih =>
    cases item with
    | time x =>
      obtain ⟨c, hrest, -⟩ := Option.map_eq_some_iff.mp h
      obtain ⟨xs, rfl⟩ := ih hrest
      exact ⟨x :: xs, rfl⟩
    | _ => simp [lookupAny] at h

/-- The bounds that an empty synopsis starts from, each with the ordering that reaches it. -/
def reachedLimits : List (Operator × Int64) :=
  [(.lessEqual, Int64.maxValue), (.greaterEqual, Int64.minValue)]

theorem isOrdering_of_mem_reachedLimits {op : Operator} (h : (op, x) ∈ reachedLimits) :
    op.isOrdering := by
  simp only [reachedLimits, List.mem_cons, Prod.mk.injEq, List.not_mem_nil, or_false] at h
  obtain ⟨rfl, -⟩ | ⟨rfl, -⟩ := h <;> rfl

theorem lookup_ordering {op : Operator} (hop : op.isOrdering) :
    (ofValues t values).lookup op (.time x) =
      some (decide ((∃ v ∈ values, (Data.time v).holds op (.time x)) ∨
        values = [] ∧ (op, x) ∈ reachedLimits)) := by
  cases op with
  | less => simp [lookup, lookupTime, min_lt_iff, Data.holds_less_time, reachedLimits]
  | lessEqual => simp [lookup, lookupTime, min_le_iff, Data.holds_lessEqual_time, reachedLimits]
  | greater => simp [lookup, lookupTime, lt_max_iff, Data.holds_greater_time, reachedLimits]
  | greaterEqual =>
    simp [lookup, lookupTime, le_max_iff, Data.holds_greaterEqual_time, reachedLimits]
  | _ => simp [Operator.isOrdering] at hop

theorem lookup_equal :
    (ofValues t values).lookup .equal (.time x) = some (decide (Spans values x)) := by
  rw [lookup, lookupTime, ← Bool.decide_and, decide_eq_decide.mpr inRange_iff]

theorem lookup_notEqual : (ofValues t values).lookup .notEqual (.time x) =
    some (decide (values = [] ∨ ∃ v ∈ values, v ≠ x)) := by
  have hother : ¬ (values ≠ [] ∧ ∀ v ∈ values, v = x) ↔ values = [] ∨ ∃ v ∈ values, v ≠ x := by
    rw [Decidable.not_and_iff_not_or_not]
    simp
  rw [lookup, lookupTime, ← Bool.decide_and, ← decide_not,
    decide_eq_decide.mpr ((not_congr isPoint_iff).trans hother)]

theorem lookup_isIn (xs : List Int64) : (ofValues t values).lookup .isIn (.list (xs.map .time)) =
    some (decide (∃ x ∈ xs, Spans values x)) := by
  rw [lookup, lookupAny_times, Option.some.injEq, Bool.eq_iff_iff]
  simp [← inRange_iff (t := t)]

/-- The comparisons that have an answer. -/
inductive Answered : Operator → Data → Prop
  | ordering {op : Operator} (hop : op.isOrdering) (x : Int64) : Answered op (.time x)
  | equal (x : Int64) : Answered .equal (.time x)
  | notEqual (x : Int64) : Answered .notEqual (.time x)
  | isIn (xs : List Int64) : Answered .isIn (.list (xs.map .time))

theorem answered_of_lookup {s : TimeSynopsis} {op : Operator} {d : Data} {b : Bool}
    (h : s.lookup op d = some b) : Answered op d := by
  unfold lookup at h
  split at h
  · rename_i x
    cases op with
    | equal => exact .equal x
    | notEqual => exact .notEqual x
    | less | lessEqual | greater | greaterEqual => exact .ordering rfl x
    | _ => simp [lookupTime] at h
  · obtain ⟨xs, rfl⟩ := exists_times_of_lookupAny h
    exact .isIn xs
  · simp at h

/-- The comparisons that are affirmed of values none of which satisfies them. A time asked for may
lie between values, or there may be no values at all. -/
def Overstates (values : List Int64) : Operator → Data → Prop
  | .equal, .time x => Spans values x ∧ x ∉ values
  | .isIn, .list items => ∃ xs : List Int64, items = xs.map .time ∧ (∃ x ∈ xs, Spans values x) ∧
      ∀ x ∈ xs, x ∉ values
  | .notEqual, .time _ => values = []
  | op, .time x => values = [] ∧ (op, x) ∈ reachedLimits
  | _, _ => False

theorem answered_of_overstates {op : Operator} {d : Data} (h : Overstates values op d) :
    Answered op d := by
  unfold Overstates at h
  split at h
  · exact .equal _
  · obtain ⟨xs, rfl, -⟩ := h
    exact .isIn xs
  · exact .notEqual _
  · exact .ordering (isOrdering_of_mem_reachedLimits h.2) _
  · exact h.elim

theorem overstates_ordering_iff {op : Operator} (hop : op.isOrdering) :
    Overstates values op (.time x) ↔ values = [] ∧ (op, x) ∈ reachedLimits := by
  cases op with
  | less | lessEqual | greater | greaterEqual => exact Iff.rfl
  | _ => simp [Operator.isOrdering] at hop

theorem overstates_isIn_iff {xs : List Int64} : Overstates values .isIn (.list (xs.map .time)) ↔
    (∃ x ∈ xs, Spans values x) ∧ ∀ x ∈ xs, x ∉ values := by
  have htime : Function.Injective Data.time := fun _ _ h => Data.time.inj h
  simp [Overstates, List.map_inj_right htime]

theorem affirmed_and_unmet_of_answered {op : Operator} {d : Data} (h : Answered op d) :
    (ofValues t values).lookup op d = some true ∧
      (∀ v ∈ values, ¬ (Data.time v).holds op d) ↔ Overstates values op d := by
  cases h with
  | ordering hop x =>
    rw [lookup_ordering hop, Option.some.injEq, decide_eq_true_eq, overstates_ordering_iff hop]
    constructor
    · rintro ⟨⟨v, hv, hmet⟩ | hlimit, hunmet⟩
      · exact absurd hmet (hunmet v hv)
      · exact hlimit
    · rintro ⟨rfl, hlimit⟩
      exact ⟨.inr ⟨rfl, hlimit⟩, by simp⟩
  | equal x =>
    rw [lookup_equal, Option.some.injEq, decide_eq_true_eq]
    refine and_congr_right fun _ => ?_
    simp only [Data.holds_equal_time]
    exact ⟨fun hunmet hx => hunmet x hx rfl, fun hx v hv heq => hx (heq ▸ hv)⟩
  | notEqual x =>
    rw [lookup_notEqual, Option.some.injEq, decide_eq_true_eq]
    simp only [Data.holds_notEqual_time]
    constructor
    · rintro ⟨hempty | ⟨v, hv, hne⟩, hunmet⟩
      · exact hempty
      · exact absurd hne (hunmet v hv)
    · rintro rfl
      exact ⟨.inl rfl, by simp⟩
  | isIn xs =>
    rw [lookup_isIn, Option.some.injEq, decide_eq_true_eq, overstates_isIn_iff]
    refine and_congr_right fun _ => ?_
    simp only [Data.holds_isIn_times]
    exact ⟨fun hunmet x hx hv => hunmet x hv hx, fun hunseen v hv hx => hunseen v hx hv⟩

theorem affirmed_and_unmet_iff {op : Operator} {d : Data} :
    (ofValues t values).lookup op d = some true ∧
      (∀ v ∈ values, (Data.time v).holds op d = false) ↔ Overstates values op d := by
  simp only [← Bool.not_eq_true]
  constructor
  · intro h
    exact (affirmed_and_unmet_of_answered (answered_of_lookup h.1)).mp h
  · intro h
    exact (affirmed_and_unmet_of_answered (answered_of_overstates h)).mpr h

end TimeSynopsis

/-! ### Booleans -/

def Cell.bool? : Cell → Option Bool
  | bool b => some b
  | _ => none

namespace BoolSynopsis

theorem covers_foldl_see_iff (s : BoolSynopsis) (cells : List Cell) (b : Bool) :
    (cells.foldl see s).Covers (.bool b) ↔
      s.Covers (.bool b) ∨ b ∈ cells.filterMap Cell.bool? := by
  induction cells generalizing s with
  | nil => simp
  | cons c rest ih =>
    rw [List.foldl_cons, ih]
    cases c with
    | bool a => cases a <;> cases b <;> simp [see, Covers, Cell.bool?]
    | _ => simp [see, Cell.bool?]

theorem covers_scan_iff (t : DataType) (cells : List Cell) (b : Bool) :
    (({ type := t } : BoolSynopsis).scan cells).Covers (.bool b) ↔
      b ∈ cells.filterMap Cell.bool? := by
  rw [scan_eq_foldl, covers_foldl_see_iff]
  cases b <;> simp [Covers]

theorem lookup_cases {s : BoolSynopsis} {op : Operator} {d : Data} {answer : Bool}
    (h : s.lookup op d = some answer) : ∃ b, d = .bool b ∧ (op = .equal ∨ op = .notEqual) := by
  unfold lookup at h
  split at h
  · exact ⟨_, rfl, .inl rfl⟩
  · exact ⟨_, rfl, .inr rfl⟩
  · simp at h

theorem lookup_scan {t : DataType} {cells : List Cell} {op : Operator} {b : Bool}
    (hop : op = .equal ∨ op = .notEqual) :
    (({ type := t } : BoolSynopsis).scan cells).lookup op (.bool b) =
      some (decide (∃ v ∈ cells.filterMap Cell.bool?, (Data.bool v).holds op (.bool b))) := by
  -- one flag answers for the value, the other one for its inequality
  obtain rfl | rfl := hop
  · have hflag := covers_scan_iff t cells b
    rw [lookup, Option.some.injEq, Bool.eq_iff_iff, decide_eq_true_eq]
    exact hflag.trans (by simp [Data.holds_equal_bool])
  · have hflag := covers_scan_iff t cells !b
    have hother (v : Bool) : (Data.bool v).holds .notEqual (.bool b) ↔ v = !b := by
      cases v <;> cases b <;> decide
    rw [lookup, Option.some.injEq, Bool.eq_iff_iff, decide_eq_true_eq]
    simp only [hother, exists_eq_right]
    cases b <;> exact hflag

end BoolSynopsis

namespace Synopsis

/-! ### Synopses that start empty and are offered columns -/

def ofTimes (t : DataType) (columns : List Column) : Synopsis :=
  (time { type := t }).addAll columns

def seenTimes (t : DataType) (columns : List Column) : List Int64 :=
  ((time { type := t }).takenCells columns).filterMap Cell.time?

def ofBools (t : DataType) (columns : List Column) : Synopsis :=
  (bool { type := t }).addAll columns

def seenBools (t : DataType) (columns : List Column) : List Bool :=
  ((bool { type := t }).takenCells columns).filterMap Cell.bool?

theorem lookup_ofTimes (t : DataType) (columns : List Column) (op : Operator) (d : Data) :
    (ofTimes t columns).lookup op d =
      (TimeSynopsis.ofValues t (seenTimes t columns)).lookup op d := by
  rw [ofTimes, addAll_eq_absorb, absorb, TimeSynopsis.widen_eq_ofValues]
  rfl

theorem lookup_ofBools (t : DataType) (columns : List Column) (op : Operator) (d : Data) :
    (ofBools t columns).lookup op d =
      (({ type := t } : BoolSynopsis).scan
        ((bool { type := t }).takenCells columns)).lookup op d := by
  rw [ofBools, addAll_eq_absorb]
  rfl

/-- An ordering is affirmed iff some time seen satisfies it, or no time was seen and the limit of
all times is asked for; an equality is ruled out iff the time is outside the range of those seen, an
inequality iff it is the only one, a list iff each of its members is. Of booleans, both comparisons
are affirmed iff one seen satisfies them. -/
theorem lookups_are_exact_but_at_the_limits_of_no_times (t : DataType) (columns : List Column) :
    (∀ op x, op.isOrdering → (ofTimes t columns).lookup op (.time x) =
      some (decide ((∃ v ∈ seenTimes t columns, (Data.time v).holds op (.time x)) ∨
        seenTimes t columns = [] ∧ (op, x) ∈ TimeSynopsis.reachedLimits))) ∧
    (∀ x, (ofTimes t columns).lookup .equal (.time x) = some false ↔
      seenTimes t columns = [] ∨ (∀ v ∈ seenTimes t columns, x < v) ∨
        ∀ v ∈ seenTimes t columns, v < x) ∧
    (∀ x, (ofTimes t columns).lookup .notEqual (.time x) = some false ↔
      seenTimes t columns ≠ [] ∧ ∀ v ∈ seenTimes t columns, v = x) ∧
    (∀ xs : List Int64, (ofTimes t columns).lookup .isIn (.list (xs.map .time)) = some false ↔
      ∀ x ∈ xs, (ofTimes t columns).lookup .equal (.time x) = some false) ∧
    ∀ op b, op = .equal ∨ op = .notEqual → (ofBools t columns).lookup op (.bool b) =
      some (decide (∃ v ∈ seenBools t columns, (Data.bool v).holds op (.bool b))) := by
  simp only [lookup_ofTimes, lookup_ofBools]
  refine ⟨fun op x hop => TimeSynopsis.lookup_ordering hop, fun x => ?_, fun x => ?_, fun xs => ?_,
    fun op b hop => BoolSynopsis.lookup_scan hop⟩
  · rw [TimeSynopsis.lookup_equal, Option.some.injEq, decide_eq_false_iff_not,
      TimeSynopsis.not_spans_iff]
  · simp [TimeSynopsis.lookup_notEqual]
  · simp [TimeSynopsis.lookup_isIn, TimeSynopsis.lookup_equal]

/-- Nulls and a column of texts, which holds no times. -/
def timelessColumns : List Column := [⟨.timestamp, [.null, .null]⟩, ⟨.utf8, [.string "noon"]⟩]

theorem last_time_is_affirmed_of_no_times :
    seenTimes (.scalar .time) timelessColumns = [] ∧
    (ofTimes (.scalar .time) timelessColumns).lookup .lessEqual (.time 0) = some false ∧
    (ofTimes (.scalar .time) timelessColumns).lookup .lessEqual (.time Int64.maxValue) =
      some true := by
  obtain ⟨hordering, -⟩ :=
    lookups_are_exact_but_at_the_limits_of_no_times (.scalar .time) timelessColumns
  have hnone : seenTimes (.scalar .time) timelessColumns = [] := by decide
  refine ⟨hnone, ?_, ?_⟩
  · rw [hordering .lessEqual 0 rfl, hnone]
    decide
  · rw [hordering .lessEqual Int64.maxValue rfl, hnone]
    decide

/-- What is affirmed of booleans, one that was seen satisfies. What is affirmed of times, one that
was seen satisfies but for two reasons: an equality is affirmed of a time between two others, alone
or in a list, and an inequality or a limit is affirmed where no time was seen. -/
theorem affirmed_answers_are_met_but_for_gaps_and_no_times (t : DataType)
    (columns : List Column) :
    (∀ op d, (ofBools t columns).lookup op d = some true →
      ∃ v ∈ seenBools t columns, (Data.bool v).holds op d) ∧
    ∀ op d, (ofTimes t columns).lookup op d = some true ∧
      (∀ v ∈ seenTimes t columns, (Data.time v).holds op d = false) ↔
        TimeSynopsis.Overstates (seenTimes t columns) op d := by
  simp only [lookup_ofTimes, lookup_ofBools]
  refine ⟨fun op d haffirmed => ?_, fun op d => TimeSynopsis.affirmed_and_unmet_iff⟩
  obtain ⟨b, rfl, hop⟩ := BoolSynopsis.lookup_cases haffirmed
  rw [BoolSynopsis.lookup_scan hop, Option.some.injEq, decide_eq_true_eq] at haffirmed
  exact haffirmed

def shiftColumns : List Column := [⟨.timestamp, [.time 10, .null]⟩, ⟨.timestamp, [.time 30]⟩]

theorem time_in_a_gap_is_affirmed :
    (ofTimes (.scalar .time) shiftColumns).lookup .equal (.time 20) = some true ∧
    (∀ v ∈ seenTimes (.scalar .time) shiftColumns, (Data.time v).holds .equal (.time 20) = false) ∧
    (ofTimes (.scalar .time) []).lookup .notEqual (.time 0) = some true := by
  obtain ⟨-, hshift⟩ :=
    affirmed_answers_are_met_but_for_gaps_and_no_times (.scalar .time) shiftColumns
  obtain ⟨-, hempty⟩ := affirmed_answers_are_met_but_for_gaps_and_no_times (.scalar .time) []
  have hseen : seenTimes (.scalar .time) shiftColumns = [10, 30] := by decide
  have hgap :
      TimeSynopsis.Overstates (seenTimes (.scalar .time) shiftColumns) .equal (.time 20) := by
    rw [hseen]
    exact ⟨by decide, by decide⟩
  obtain ⟨haffirmed, hunmet⟩ := (hshift .equal (.time 20)).mpr hgap
  exact ⟨haffirmed, hunmet, ((hempty .notEqual (.time 0)).mpr rfl).1⟩

end Synopsis

end EventFilter
