import EventFilter.Eval.Test
import EventFilter.Proofs.Eval.Rows
import EventFilter.Proofs.Synopsis.Scan

/-! Synopses cover the cells that they have seen. A comparison that a synopsis rules out is not
true of any covered cell. -/

namespace EventFilter

theorem Cell.test_null_of_ne {op : Operator} {d : Data} (h : d ≠ .null) :
    Cell.null.test op d = none := by
  rw [test_eq null fun hd => absurd hd h]
  cases d <;> rfl

theorem Cell.test_bool_equal (a b : Bool) :
    (Cell.bool a).test .equal (.bool b) = some (a == b) := by
  cases a <;> cases b <;> rfl

theorem Cell.test_bool_notEqual (a b : Bool) :
    (Cell.bool a).test .notEqual (.bool b) = some (a != b) := by
  cases a <;> cases b <;> rfl

/-- A time is stored as it is compared. -/
theorem Cell.test_time (x : Int64) (op : Operator) (d : Data) :
    (Cell.time x).test op d = some ((Data.time x).holds op d) := by
  by_cases hd : d = .null
  · subst hd
    cases op <;> rfl
  · rw [test_eq (time x) fun h => absurd h hd]
    cases d with
    | time y => cases op <;> cases h : compare x.toInt y.toInt <;>
        simp [storedOrder?, Operator.accepts?, Data.holds, Data.equals, Data.order?, value?, h]
    | null => exact absurd rfl hd
    | _ => rfl

namespace BoolSynopsis

variable {s : BoolSynopsis} {c : Cell} {op : Operator} {d : Data}

/-- The cell is null or a boolean that counts as seen. -/
def Covers (s : BoolSynopsis) : Cell → Prop
  | .null => True
  | .bool b => if b then s.anyTrue else s.anyFalse
  | _ => False

theorem covers_see_self (s : BoolSynopsis) (h : c.fits .boolean) : (s.see c).Covers c := by
  cases c with
  | null => trivial
  | bool b => cases b <;> simp [see, Covers]
  | _ => simp [Cell.fits] at h

theorem Covers.see (h : s.Covers c) (d : Cell) : (s.see d).Covers c := by
  cases c with
  | null => trivial
  | bool b =>
    cases d with
    | bool a => cases a <;> cases b <;> simp_all [BoolSynopsis.see, Covers]
    | _ => exact h
  | _ => exact h

theorem lookup_sound (h : s.Covers c) (hl : s.lookup op d = some false) :
    c.test op d ≠ some true := by
  cases c with
  | null =>
    have hd : d ≠ .null := by
      rintro rfl
      simp [lookup] at hl
    simp [Cell.test_null_of_ne hd]
  | bool a =>
    unfold lookup at hl
    split at hl
    · rename_i b
      have hseen : (if b then s.anyTrue else s.anyFalse) = false := Option.some.inj hl
      rw [Cell.test_bool_equal]
      cases a <;> cases b <;> simp_all [Covers]
    · rename_i b
      have hseen : (if b then s.anyFalse else s.anyTrue) = false := Option.some.inj hl
      rw [Cell.test_bool_notEqual]
      cases a <;> cases b <;> simp_all [Covers]
    · simp at hl
  | _ => exact absurd h id

end BoolSynopsis

namespace TimeSynopsis

variable {s : TimeSynopsis} {c : Cell} {op : Operator} {d : Data} {x y : Int64}

/-- The cell is null or a time in the range. -/
def Covers (s : TimeSynopsis) : Cell → Prop
  | .null => True
  | .time x => s.min ≤ x ∧ x ≤ s.max
  | _ => False

theorem covers_see_self (s : TimeSynopsis) (h : c.fits .timestamp) : (s.see c).Covers c := by
  cases c with
  | null => trivial
  | time x =>
    simp only [see, Covers, Int64.le_iff_toInt_le, Int64.lt_iff_toInt_lt]
    constructor <;> split <;> omega
  | _ => simp [Cell.fits] at h

theorem Covers.see (h : s.Covers c) (d : Cell) : (s.see d).Covers c := by
  cases c with
  | null => trivial
  | time x =>
    cases d with
    | time y =>
      simp only [Covers, TimeSynopsis.see, Int64.le_iff_toInt_le, Int64.lt_iff_toInt_lt] at h ⊢
      constructor <;> split <;> omega
    | _ => exact h
  | _ => exact h

theorem lookupTime_sound (h : s.Covers (.time x)) (hl : s.lookupTime op y = some false) :
    (Data.time x).holds op (.time y) = false := by
  have hmin := Int64.le_iff_toInt_le.mp h.1
  have hmax := Int64.le_iff_toInt_le.mp h.2
  cases op <;>
    simp only [lookupTime, Option.some.injEq, reduceCtorEq, Bool.and_eq_false_iff,
      Bool.not_eq_eq_eq_not, Bool.not_false, Bool.and_eq_true, decide_eq_false_iff_not,
      decide_eq_true_eq, Int64.le_iff_toInt_le, Int64.lt_iff_toInt_lt, ← Int64.toInt_inj] at hl <;>
    simp only [Data.holds, Data.equals, Data.order?, Bool.not_eq_eq_eq_not, Bool.not_false,
      decide_eq_false_iff_not, decide_eq_true_eq, Option.some.injEq, Int.compare_eq_eq,
      Int.compare_eq_lt, Int.compare_eq_gt] <;>
    omega

theorem lookupAny_sound {items : List Data} (h : s.Covers (.time x))
    (hl : s.lookupAny items = some false) : ∀ d ∈ items, d.equals (.time x) = false := by
  induction items with
  | nil => simp
  | cons item rest ih =>
    cases item with
    | time y =>
      obtain ⟨b, hrest, hb⟩ := Option.map_eq_some_iff.mp hl
      obtain ⟨hout, rfl⟩ := Bool.or_eq_false_iff.mp hb
      have hne : y ≠ x := by
        rintro rfl
        simp [h.1, h.2] at hout
      refine List.forall_mem_cons.mpr ⟨?_, ih hrest⟩
      simp [Data.equals, Data.order?, Int64.toInt_inj, hne]
    | _ => simp [lookupAny] at hl

theorem lookup_sound (h : s.Covers c) (hl : s.lookup op d = some false) :
    c.test op d ≠ some true := by
  cases c with
  | null =>
    have hd : d ≠ .null := by
      rintro rfl
      simp [lookup] at hl
    simp [Cell.test_null_of_ne hd]
  | time x =>
    rw [Cell.test_time]
    unfold lookup at hl
    split at hl
    · simp [lookupTime_sound h hl]
    · simpa [Data.holds, Data.contains] using lookupAny_sound h hl
    · simp at hl
  | _ => exact absurd h id

end TimeSynopsis

theorem DataType.layout_of_same {t : DataType} {k : Scalar} {l : Layout}
    (ht : t.layout = k.layout) (h : t.layout.same l) : l = k.layout := by
  rw [ht] at h
  cases k <;> cases l <;> simp_all [Scalar.layout, Layout.same]

/-- Adding cells one by one covers every one of them, and what was covered before. -/
theorem covers_foldl {σ : Type} {see : σ → Cell → σ} {covers : σ → Cell → Prop} {l : Layout}
    (self : ∀ s c, c.fits l → covers (see s c) c)
    (keep : ∀ s c d, covers s c → covers (see s d) c) (cells : List Cell) (s : σ) :
    (∀ c, covers s c → covers (cells.foldl see s) c) ∧
      ∀ c ∈ cells, c.fits l → covers (cells.foldl see s) c := by
  induction cells generalizing s with
  | nil => simp
  | cons d rest ih =>
    obtain ⟨hkeep, hself⟩ := ih (see s d)
    refine ⟨fun c hc => hkeep c (keep s c d hc), fun c hc hfit => ?_⟩
    rcases List.mem_cons.mp hc with rfl | hc
    · exact hkeep c (self s c hfit)
    · exact hself c hc hfit

namespace Synopsis

/-- What the synopsis rules out is not true of the cell. The built-in ones say which cells these
are; of one of another maker only the answers are known. -/
def Covers (s : Synopsis) (c : Cell) : Prop :=
  match s with
  | bool b => b.Covers c
  | time t => t.Covers c
  | sealed _ _ => True
  | custom m => ∀ op d, m.answer op d = some false → c.test op d ≠ some true

theorem lookup_sound {s : Synopsis} {c : Cell} {op : Operator} {d : Data} (h : s.Covers c)
    (hl : s.lookup op d = some false) : c.test op d ≠ some true := by
  cases s with
  | bool b => exact BoolSynopsis.lookup_sound h hl
  | time t => exact TimeSynopsis.lookup_sound h hl
  | sealed t p => simp [lookup] at hl
  | custom m => exact h op d hl

/-- Whether the synopsis is made for columns of the type. -/
def Suits (s : Synopsis) (t : DataType) : Prop :=
  match s with
  | bool _ => t.layout = .boolean
  | time _ => t.layout = .timestamp
  | _ => False

variable {s : Synopsis} {t : DataType} {l : Layout}

theorem accepts_of_suits (h : s.Suits t) (hl : t.layout.same l) : s.accepts l = .ok () := by
  cases s with
  | bool b =>
    obtain rfl : l = .boolean := DataType.layout_of_same (k := .bool) h hl
    rfl
  | time r =>
    obtain rfl : l = .timestamp := DataType.layout_of_same (k := .time) h hl
    rfl
  | _ => exact absurd h id

theorem suits_absorb (h : s.Suits t) (cells : List Cell) : (s.absorb cells).Suits t := by
  cases s <;> exact h

theorem covers_absorb (h : s.Suits t) (hl : t.layout.same l) (cells : List Cell) :
    (∀ c, s.Covers c → (s.absorb cells).Covers c) ∧
      ∀ c ∈ cells, c.fits l → (s.absorb cells).Covers c := by
  cases s with
  | bool b =>
    obtain rfl : l = .boolean := DataType.layout_of_same (k := .bool) h hl
    rw [absorb, BoolSynopsis.scan_eq_foldl]
    exact covers_foldl (fun s _ => s.covers_see_self) (fun _ _ d hc => hc.see d) cells b
  | time r =>
    obtain rfl : l = .timestamp := DataType.layout_of_same (k := .time) h hl
    rw [absorb, TimeSynopsis.widen_eq_foldl]
    exact covers_foldl (fun s _ => s.covers_see_self) (fun _ _ d hc => hc.see d) cells r
  | _ => exact absurd h id

end Synopsis

end EventFilter
