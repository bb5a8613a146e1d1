import EventFilter.Proofs.Synopsis.Partition
import EventFilter.Proofs.Table.Window

/-! Slices added one after the other. The summary in the end depends on the rows of the slices that
were taken, not on their order, on the slices refused in between or on how the rows were cut. -/

namespace EventFilter.Partition

/-- The summary after all slices were offered to it, some of which it may refuse. -/
def receiveAll (p : Partition) : List Slice → Partition
  | [] => p
  | x :: rest => (p.receive x).1.receiveAll rest

/-- The slices that are taken when all are offered. -/
def taken (p : Partition) : List Slice → List Slice
  | [] => []
  | x :: rest =>
    if (p.receive x).2.isOk then x :: (p.receive x).1.taken rest else (p.receive x).1.taken rest

variable {p : Partition} {x y : Slice} {xs ys : List Slice}

theorem taken_cons (p : Partition) (x : Slice) (rest : List Slice) : p.taken (x :: rest) =
    if (p.refusal? x).isNone then x :: (p.absorb x).taken rest else p.taken rest := by
  rw [taken, isOk_receive]
  cases hx : p.refusal? x with
  | none => simp [receive_of_refusal_eq_none hx]
  | some err => simp [receive_of_refusal hx]

theorem taken_eq_filter (p : Partition) (xs : List Slice) :
    p.taken xs = xs.filter fun x => (p.refusal? x).isNone := by
  induction xs generalizing p with
  | nil => rfl
  | cons x rest ih =>
    cases hx : p.refusal? x with
    | none => simp [taken_cons, hx, ih, refusal?_absorb]
    | some err => simp [taken_cons, hx, ih]

theorem receiveAll_eq_foldl (p : Partition) (xs : List Slice) :
    p.receiveAll xs = (p.taken xs).foldl absorb p := by
  induction xs generalizing p with
  | nil => rfl
  | cons x rest ih =>
    cases hx : p.refusal? x with
    | none => simp [receiveAll, taken_cons, receive_of_refusal_eq_none hx, hx, ih]
    | some err => simp [receiveAll, taken_cons, receive_of_refusal hx, hx, ih]

/-! ### Order -/

theorem extendRange_comm (range : Option (Int64 × Int64)) (t u : Int64) :
    extendRange (some (extendRange range t)) u = extendRange (some (extendRange range u)) t := by
  cases range with
  | none =>
    show (if u < t then u else t, if t < u then u else t) =
      (if t < u then t else u, if u < t then t else u)
    rw [lowered_eq_min, lowered_eq_min, raised_eq_max, raised_eq_max, Prod.mk.injEq]
    exact ⟨by ac_rfl, by ac_rfl⟩
  | some r =>
    simp only [extendRange, lowered_eq_min, raised_eq_max, Prod.mk.injEq]
    exact ⟨by ac_rfl, by ac_rfl⟩

theorem absorb_absorb_comm (p : Partition) (x y : Slice) :
    (p.absorb x).absorb y = (p.absorb y).absorb x := by
  have hsynopses : ((p.absorb x).absorb y).synopses = ((p.absorb y).absorb x).synopses := by
    simp only [synopses_absorb, OffsetMap.map_map]
    congr 1
    funext o s
    exact s.absorb_absorb_comm _ _
  have hevents : ((p.absorb x).absorb y).events = ((p.absorb y).absorb x).events := by
    show p.events + _ + _ = p.events + _ + _
    rw [UInt64.add_assoc, UInt64.add_assoc, UInt64.add_comm (.ofNat x.rows)]
  have htimes : ((p.absorb x).absorb y).importTime = ((p.absorb y).absorb x).importTime := by
    cases hx : x.importTime <;> cases hy : y.importTime <;>
      simp only [absorb, hx, hy, extendRange_comm p.importTime]
  exact mk.injEq .. ▸ ⟨rfl, hsynopses, hevents, htimes⟩

theorem receiveAll_of_perm (h : ys.Perm (p.taken xs)) :
    p.receiveAll ys = p.receiveAll xs ∧ p.taken ys = ys := by
  have htaken : p.taken ys = ys := by
    rw [taken_eq_filter, List.filter_eq_self]
    intro y hy
    have hmem := h.mem_iff.mp hy
    rw [taken_eq_filter] at hmem
    exact (List.mem_filter.mp hmem).2
  refine ⟨?_, htaken⟩
  rw [receiveAll_eq_foldl p ys, receiveAll_eq_foldl p xs, htaken]
  exact h.foldl_eq' (fun x _ y _ p => p.absorb_absorb_comm x y) p

/-! ### Cuts -/

/-- Whether some rows are taken does not depend on their number, nor on what they hold. -/
theorem refusal?_window_eq_none_iff (h : p.RefusesNulls) (k n : Nat) (x : Slice) :
    p.refusal? (x.window k n) = none ↔ p.refusal? x = none := by
  rw [h.refusal?_eq_none_iff, h.refusal?_eq_none_iff]
  refine and_congr Iff.rfl (forall₃_congr fun o s _ => ?_)
  rw [Slice.column?_window]
  cases x.column? o <;> simp [Column.window]

theorem refusal?_eq_none_iff_of_mem_split (h : p.RefusesNulls) {sizes : List Nat}
    (hy : y ∈ x.split sizes) : p.refusal? y = none ↔ p.refusal? x = none := by
  induction sizes generalizing x with
  | nil =>
    obtain rfl : y = x := List.mem_singleton.mp hy
    rfl
  | cons n rest ih =>
    rcases List.mem_cons.mp hy with rfl | hy
    · exact refusal?_window_eq_none_iff h 0 n x
    · exact (ih hy).trans (refusal?_window_eq_none_iff h n x.rows x)

theorem cellsAt_windows (n : Nat) (x : Slice) (o : Offset) :
    cellsAt (x.window 0 n) o ++ cellsAt (x.window n x.rows) o = cellsAt x o := by
  simp only [cellsAt, Slice.column?_window]
  cases hc : x.column? o with
  | none => rfl
  | some c =>
    have hsize : c.cells.length = x.rows := Slice.size_of_column? hc
    have hrest : (c.cells.drop n).take x.rows = c.cells.drop n :=
      List.take_of_length_le (by rw [List.length_drop]; omega)
    simp [Column.window, hrest]

theorem extendRange_eq_self {low high t : Int64} (h : low ≤ t ∧ t ≤ high) :
    extendRange (some (low, high)) t = (low, high) := by
  simp only [extendRange, Int64.lt_iff_toInt_lt, Int64.le_iff_toInt_le] at h ⊢
  rw [if_neg (by omega), if_neg (by omega)]

theorem absorb_windows (n : Nat) (p : Partition) (x : Slice) :
    (p.absorb (x.window 0 n)).absorb (x.window n x.rows) = p.absorb x := by
  have hsynopses : ((p.absorb (x.window 0 n)).absorb (x.window n x.rows)).synopses =
      (p.absorb x).synopses := by
    simp only [synopses_absorb, OffsetMap.map_map]
    congr 1
    funext o s
    rw [← Synopsis.absorb_append, cellsAt_windows]
  have hevents : ((p.absorb (x.window 0 n)).absorb (x.window n x.rows)).events =
      (p.absorb x).events := by
    have hrows : min n (x.rows - 0) + min x.rows (x.rows - n) = x.rows := by omega
    show p.events + UInt64.ofNat (min n (x.rows - 0)) + UInt64.ofNat (min x.rows (x.rows - n)) =
      p.events + UInt64.ofNat x.rows
    rw [UInt64.add_assoc, ← UInt64.ofNat_add, hrows]
  have htimes : ((p.absorb (x.window 0 n)).absorb (x.window n x.rows)).importTime =
      (p.absorb x).importTime := by
    cases ht : x.importTime with
    | none => simp [absorb, Slice.window, ht]
    | some t =>
      have hself := extendRange_eq_self (extendRange_self p.importTime t)
      simp [absorb, Slice.window, ht, hself]
  exact mk.injEq .. ▸ ⟨rfl, hsynopses, hevents, htimes⟩

theorem foldl_absorb_split (p : Partition) (x : Slice) (sizes : List Nat) :
    (x.split sizes).foldl absorb p = p.absorb x := by
  induction sizes generalizing p x with
  | nil => rfl
  | cons n rest ih => rw [Slice.split, List.foldl_cons, ih, absorb_windows]

theorem refusesNulls_start (s : Schema) (f : Factory) : (start s f).RefusesNulls := by
  intro o u hu l ha
  obtain ⟨leaf, -, -, hmake⟩ := exists_leaf_of_mem_start hu
  obtain ⟨summary, -, rfl⟩ := Option.map_eq_some_iff.mp hmake
  refine Synopsis.isNull_eq_false_of_accepts (fun m => ?_) ha
  cases summary <;> simp [Summary.empty]

theorem RefusesNulls.receiveAll (h : p.RefusesNulls) (xs : List Slice) :
    (p.receiveAll xs).RefusesNulls := by
  rw [receiveAll_eq_foldl]
  exact List.foldlRecOn (motive := RefusesNulls) _ _ h fun p hp x _ => hp.absorb x

/-- The parts of a slice are all taken or all refused, as the slice is. -/
theorem receiveAll_split (h : p.RefusesNulls) (x : Slice) (sizes : List Nat) :
    p.receiveAll (x.split sizes) = (p.receive x).1 ∧
      p.taken (x.split sizes) = if (p.receive x).2.isOk then x.split sizes else [] := by
  rw [receiveAll_eq_foldl, taken_eq_filter]
  cases hx : p.refusal? x with
  | none =>
    have hparts : (x.split sizes).filter (fun y => (p.refusal? y).isNone) = x.split sizes := by
      refine List.filter_eq_self.mpr fun y hy => ?_
      rw [(refusal?_eq_none_iff_of_mem_split h hy).mpr hx]
      rfl
    rw [hparts, receive_of_refusal_eq_none hx, foldl_absorb_split]
    exact ⟨rfl, rfl⟩
  | some err =>
    have hparts : (x.split sizes).filter (fun y => (p.refusal? y).isNone) = [] := by
      refine List.filter_eq_nil_iff.mpr fun y hy => ?_
      rw [Option.isNone_iff_eq_none, refusal?_eq_none_iff_of_mem_split h hy, hx]
      simp
    rw [hparts, receive_of_refusal hx]
    exact ⟨rfl, rfl⟩

def doorSchema : Schema :=
  ⟨"door", [("at", .scalar .time), ("lock", .record [("open", .scalar .bool)])], []⟩

def openingSlice : Slice where
  schema := doorSchema
  batch :=
    { rows := 3
      columns :=
        [("at", ⟨.timestamp, [.time 4, .null, .time 7]⟩),
         ("lock", ⟨.struct [("open", .boolean, true)],
          [.record true [.bool true], .record true [.bool true], .record false [.bool false]]⟩)]
      rectangular := by decide
      typed := by decide }
  importTime := some 9
  accepted := by decide

def closingSlice : Slice where
  schema := doorSchema
  batch :=
    { rows := 1
      columns :=
        [("at", ⟨.timestamp, [.time 1]⟩),
         ("lock", ⟨.struct [("open", .boolean, true)], [.record true [.bool false]]⟩)]
      rectangular := by decide
      typed := by decide }
  importTime := some 5
  accepted := by decide

/-- No door, and refused. -/
def strayedSlice : Slice where
  schema := ⟨"gate", [("open", .scalar .bool)], []⟩
  batch :=
    { rows := 1
      columns := [("open", ⟨.boolean, [.bool true]⟩)]
      rectangular := by decide
      typed := by decide }
  accepted := by decide

/-- A summary in which the slice of another schema leaves no trace. -/
def doorSummary : Partition :=
  (start doorSchema (.withSummaries true true)).receiveAll
    [openingSlice, strayedSlice, closingSlice]

end EventFilter.Partition
