import EventFilter.Proofs.Table.Columns

/-! Windows of slices: some of the rows one after the other, of the same schema and import time. A
slice can be cut into windows that follow each other. -/

namespace EventFilter

/-- The cells of at most `n` rows from row `k` on. -/
def Column.window (k n : Nat) (c : Column) : Column := { c with cells := (c.cells.drop k).take n }

def Batch.window (k n : Nat) (b : Batch) : Batch where
  rows := min n (b.rows - k)
  columns := b.columns.map fun named => (named.1, named.2.window k n)
  rectangular := by
    intro named hnamed
    obtain ⟨c, hc, rfl⟩ := List.mem_map.mp hnamed
    have hsize : c.2.cells.length = b.rows := b.rectangular c hc
    simp [Column.size, Column.window, hsize]
  typed := by
    intro named hnamed cell hcell
    obtain ⟨c, hc, rfl⟩ := List.mem_map.mp hnamed
    have hold : cell ∈ c.2.cells := List.mem_of_mem_drop (List.mem_of_mem_take hcell)
    exact b.typed c hc cell hold

theorem columnMismatch?_window (k n : Nat) (fs : List Field) (columns : List (String × Column)) :
    columnMismatch? fs (columns.map fun named => (named.1, named.2.window k n)) =
      columnMismatch? fs columns := by
  induction fs generalizing columns with
  | nil => cases columns <;> rfl
  | cons f fs ih =>
    cases columns with
    | nil => rfl
    | cons named columns =>
      simp only [List.map_cons, columnMismatch?, ih]
      rfl

def Slice.window (k n : Nat) (x : Slice) : Slice where
  schema := x.schema
  batch := x.batch.window k n
  importTime := x.importTime
  accepted := by
    have haccepted := x.accepted
    unfold Schema.mismatch? at haccepted ⊢
    simpa [Batch.window, columnMismatch?_window] using haccepted

/-- The slice cut at the sizes, the last part being what is left. -/
def Slice.split (x : Slice) : List Nat → List Slice
  | [] => [x]
  | n :: rest => x.window 0 n :: (x.window n x.rows).split rest

namespace Column

variable {c d : Column} {k n i : Nat} {o : Offset}

theorem field?_window (k n : Nat) (c : Column) (i : Nat) :
    (c.window k n).field? i = (c.field? i).map (window k n) := by
  obtain ⟨layout, cells⟩ := c
  cases layout with
  | struct fields =>
    simp only [field?, window]
    cases fields[i]? with
    | none => rfl
    | some field => simp [List.map_take, List.map_drop, window]
  | _ => rfl

theorem descend?_window (k n : Nat) (c : Column) (o : Offset) :
    (c.window k n).descend? o = (c.descend? o).map (window k n) := by
  induction o generalizing c with
  | nil => rfl
  | cons i rest ih =>
    simp only [descend?, field?_window]
    cases c.field? i with
    | none => rfl
    | some inner => exact ih inner

end Column

namespace Slice

variable {x : Slice} {o : Offset}

theorem rows_window (k n : Nat) (x : Slice) : (x.window k n).rows = min n (x.rows - k) := rfl

theorem rootColumn_window (k n : Nat) (x : Slice) :
    (x.window k n).rootColumn = x.rootColumn.window k n := by
  have hlayout : (x.window k n).rootColumn.layout = x.rootColumn.layout := by
    simp [rootColumn, window, Batch.window, Column.window]
  have hcells : (x.window k n).rootColumn.cells = (x.rootColumn.cells.drop k).take n := by
    refine List.ext_getElem? fun row => ?_
    simp only [rootColumn, List.getElem?_map, List.getElem?_take, List.getElem?_drop, rows_window]
    by_cases hrow : row < n
    · by_cases hleft : k + row < x.rows
      · have hin : row < min n (x.rows - k) := by omega
        simp [List.getElem?_range hin, List.getElem?_range hleft, hrow, window, Batch.window,
          Column.window, List.getElem?_drop]
      · have hout : ¬ row < min n (x.rows - k) := by omega
        simp [hrow, hout, hleft]
    · have hout : ¬ row < min n (x.rows - k) := by omega
      simp [hrow, hout]
  generalize (x.window k n).rootColumn = c at hlayout hcells
  obtain ⟨layout, cells⟩ := c
  simp only at hlayout hcells
  rw [hlayout, hcells, Column.window]

/-- The column of some rows is made of these rows of the column. -/
theorem column?_window (k n : Nat) (x : Slice) (o : Offset) :
    (x.window k n).column? o = (x.column? o).map (Column.window k n) := by
  rw [column?_eq_descend?, column?_eq_descend?, rootColumn_window, Column.descend?_window]

end Slice

end EventFilter
