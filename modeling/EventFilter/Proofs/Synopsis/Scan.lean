import EventFilter.Synopsis.Basic

/-! Columns that synopses absorb, cell by cell. The scan that stops early and the bounds of a whole
column come to the same as seeing every cell, in whatever order and in however many parts. -/

namespace EventFilter

namespace BoolSynopsis

variable {s : BoolSynopsis}

/-- Once both values were seen, nothing changes any more. -/
theorem see_eq_self (htrue : s.anyTrue = true) (hfalse : s.anyFalse = true) (c : Cell) :
    s.see c = s := by
  obtain ⟨t, anyTrue, anyFalse⟩ := s
  obtain rfl : anyTrue = true := htrue
  obtain rfl : anyFalse = true := hfalse
  cases c with
  | bool b => cases b <;> rfl
  | _ => rfl

theorem foldl_see_eq_self (htrue : s.anyTrue = true) (hfalse : s.anyFalse = true)
    (cells : List Cell) : cells.foldl see s = s := by
  induction cells with
  | nil => rfl
  | cons c rest ih => rw [List.foldl_cons, see_eq_self htrue hfalse, ih]

theorem scan_eq_foldl (s : BoolSynopsis) (cells : List Cell) : s.scan cells = cells.foldl see s := by
  induction cells generalizing s with
  | nil => rfl
  | cons c rest ih =>
    rw [scan, List.foldl_cons]
    split
    · rename_i hboth
      obtain ⟨htrue, hfalse⟩ := Bool.and_eq_true_iff.mp hboth
      exact (foldl_see_eq_self htrue hfalse rest).symm
    · exact ih (s.see c)

theorem type_foldl_see (s : BoolSynopsis) (cells : List Cell) :
    (cells.foldl see s).type = s.type := by
  induction cells generalizing s with
  | nil => rfl
  | cons c rest ih =>
    rw [List.foldl_cons, ih]
    cases c with
    | bool b => cases b <;> rfl
    | _ => rfl

theorem see_see_comm (s : BoolSynopsis) (c d : Cell) : (s.see c).see d = (s.see d).see c := by
  cases c with
  | bool a =>
    cases d with
    | bool b => cases a <;> cases b <;> rfl
    | _ => rfl
  | _ => rfl

end BoolSynopsis

/-! ### Bounds of times -/

theorem lowered_eq_min (a x : Int64) : (if x < a then x else a) = min a x := by
  show _ = if a ≤ x then a else x
  simp only [← Int64.toInt_inj, Int64.lt_iff_toInt_lt, Int64.le_iff_toInt_le]
  split <;> split <;> omega

theorem raised_eq_max (a x : Int64) : (if a < x then x else a) = max a x := by
  show _ = if a ≤ x then x else a
  simp only [← Int64.toInt_inj, Int64.lt_iff_toInt_lt, Int64.le_iff_toInt_le]
  split <;> split <;> omega

theorem toInt_min (a x : Int64) : (min a x).toInt = min a.toInt x.toInt := by
  rw [← lowered_eq_min]
  simp only [Int64.lt_iff_toInt_lt]
  split <;> omega

theorem toInt_max (a x : Int64) : (max a x).toInt = max a.toInt x.toInt := by
  rw [← raised_eq_max]
  simp only [Int64.lt_iff_toInt_lt]
  split <;> omega

instance associative_max : Std.Associative (max : Int64 → Int64 → Int64) where
  assoc a b c := by simp only [← Int64.toInt_inj, toInt_max, Int.max_assoc]

instance commutative_max : Std.Commutative (max : Int64 → Int64 → Int64) where
  comm a b := by simp only [← Int64.toInt_inj, toInt_max, Int.max_comm]

theorem foldl_min_eq (a : Int64) (xs : List Int64) : xs.foldl min a =
    match xs.min? with
    | some low => if low < a then low else a
    | none => a := by
  cases xs with
  | nil => rfl
  | cons x rest =>
    rw [List.min?_cons']
    show rest.foldl min (min a x) = if rest.foldl min x < a then rest.foldl min x else a
    rw [lowered_eq_min, List.foldl_assoc]

theorem foldl_max_eq (a : Int64) (xs : List Int64) : xs.foldl max a =
    match xs.max? with
    | some high => if a < high then high else a
    | none => a := by
  cases xs with
  | nil => rfl
  | cons x rest =>
    rw [List.max?_cons']
    show rest.foldl max (max a x) = if a < rest.foldl max x then rest.foldl max x else a
    rw [raised_eq_max, List.foldl_assoc]

namespace TimeSynopsis

theorem see_time (s : TimeSynopsis) (x : Int64) :
    s.see (.time x) = ⟨s.type, Min.min s.min x, Max.max s.max x⟩ := by
  rw [see, lowered_eq_min, raised_eq_max]

theorem foldl_see (s : TimeSynopsis) (cells : List Cell) :
    cells.foldl see s = ⟨s.type, (cells.filterMap Cell.time?).foldl Min.min s.min,
      (cells.filterMap Cell.time?).foldl Max.max s.max⟩ := by
  induction cells generalizing s with
  | nil => rfl
  | cons c rest ih =>
    rw [List.foldl_cons, ih]
    cases c with
    | time x =>
      rw [see_time]
      rfl
    | _ => rfl

theorem widen_eq_foldl (s : TimeSynopsis) (cells : List Cell) :
    s.widen cells = cells.foldl see s := by
  rw [foldl_see, foldl_min_eq, foldl_max_eq]
  rfl

theorem see_see_comm (s : TimeSynopsis) (c d : Cell) : (s.see c).see d = (s.see d).see c := by
  cases c with
  | time x =>
    cases d with
    | time y =>
      have hlow : Min.min (Min.min s.min x) y = Min.min (Min.min s.min y) x := by ac_rfl
      have hhigh : Max.max (Max.max s.max x) y = Max.max (Max.max s.max y) x := by ac_rfl
      simp only [see_time, hlow, hhigh]
    | _ => rfl
  | _ => rfl

end TimeSynopsis

namespace Synopsis

/-- The synopsis after one cell. -/
def see (s : Synopsis) (c : Cell) : Synopsis :=
  match s with
  | bool b => bool (b.see c)
  | time t => time (t.see c)
  | sealed t p => sealed t p
  | custom m => custom m

theorem absorb_eq_foldl (s : Synopsis) (cells : List Cell) : s.absorb cells = cells.foldl see s := by
  induction cells generalizing s with
  | nil => cases s <;> simp [absorb, BoolSynopsis.scan, TimeSynopsis.widen_eq_foldl]
  | cons c rest ih =>
    rw [List.foldl_cons, ← ih]
    cases s with
    | bool b => simp [absorb, see, BoolSynopsis.scan_eq_foldl]
    | time t => simp [absorb, see, TimeSynopsis.widen_eq_foldl]
    | _ => rfl

theorem see_see_comm (s : Synopsis) (c d : Cell) : (s.see c).see d = (s.see d).see c := by
  cases s with
  | bool b => exact congrArg bool (b.see_see_comm c d)
  | time t => exact congrArg time (t.see_see_comm c d)
  | _ => rfl

theorem absorb_append (s : Synopsis) (xs ys : List Cell) :
    s.absorb (xs ++ ys) = (s.absorb xs).absorb ys := by
  simp only [absorb_eq_foldl, List.foldl_append]

theorem absorb_absorb_comm (s : Synopsis) (xs ys : List Cell) :
    (s.absorb xs).absorb ys = (s.absorb ys).absorb xs := by
  have hperm : (xs ++ ys).Perm (ys ++ xs) := List.perm_append_comm
  rw [← absorb_append, ← absorb_append, absorb_eq_foldl, absorb_eq_foldl]
  exact hperm.foldl_eq' (fun c _ d _ u => u.see_see_comm c d) s

/-- A built-in synopsis has no use for a column of nulls alone. -/
theorem isNull_eq_false_of_accepts {s : Synopsis} {l : Layout} (hs : ∀ m, s ≠ custom m)
    (h : s.accepts l = .ok ()) : l.isNull = false := by
  cases l with
  | null =>
    cases s with
    | custom m => exact absurd rfl (hs m)
    | _ => simp [accepts, Layout.same] at h
  | _ => rfl

/-- What a synopsis takes does not depend on what it has seen. -/
theorem accepts_absorb (s : Synopsis) (cells : List Cell) (l : Layout) :
    (s.absorb cells).accepts l = s.accepts l := by
  cases s with
  | bool b =>
    have htype : (b.scan cells).type = b.type := by
      rw [BoolSynopsis.scan_eq_foldl]
      exact BoolSynopsis.type_foldl_see b cells
    simp only [absorb, accepts, htype]
  | time t => rfl
  | _ => rfl

end Synopsis

end EventFilter
