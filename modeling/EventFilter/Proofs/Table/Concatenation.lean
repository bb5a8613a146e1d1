import EventFilter.Proofs.Table.Acceptance
import EventFilter.Proofs.Table.NullFields

/-! Slices of one schema and import time put one after the other. The columns of the whole are the
columns of the parts put together, also those of fields within records. -/

namespace EventFilter

def Batch.cellLists (b : Batch) : List (List Cell) := b.columns.map (·.2.cells)

/-- `z` has the rows of `x` and after them those of `y`. -/
structure Slice.IsConcat (x y z : Slice) : Prop where
  schema_left : z.schema = x.schema
  schema_right : z.schema = y.schema
  importTime_left : z.importTime = x.importTime
  importTime_right : z.importTime = y.importTime
  rows : z.rows = x.rows + y.rows
  cells : z.batch.cellLists = List.zipWith (· ++ ·) x.batch.cellLists y.batch.cellLists

namespace Slice

variable {x y z : Slice} {o : Offset}

theorem length_columns (x : Slice) : x.batch.columns.length = x.schema.fields.length := by
  obtain ⟨hnames, -⟩ := (x.schema.mismatch?_eq_none_iff x.batch).mp x.accepted
  simpa using congrArg List.length hnames

theorem length_of_mem_cellLists {cells : List Cell} (h : cells ∈ x.batch.cellLists) :
    cells.length = x.rows := by
  obtain ⟨c, hc, rfl⟩ := List.mem_map.mp h
  exact x.batch.rectangular c hc

theorem length_cellLists_eq (h : x.schema = y.schema) :
    x.batch.cellLists.length = y.batch.cellLists.length := by
  simp [Batch.cellLists, length_columns, h]

/-! ### Concatenations exist -/

/-- What a column of one slice holds, the column in its place in another slice of the schema may
hold as well. -/
theorem fits_of_mem_zip (h : x.schema = y.schema) {a b : String × Column}
    (hab : (a, b) ∈ x.batch.columns.zip y.batch.columns) {cell : Cell} (hcell : cell ∈ b.2.cells) :
    cell.fits a.2.layout := by
  obtain ⟨i, hi, hget⟩ := List.mem_iff_getElem.mp hab
  have hlen : i < x.schema.fields.length := by
    simp only [List.length_zip, length_columns] at hi
    omega
  obtain ⟨t, ht⟩ : ∃ t, x.schema.fields[i]? = some t := ⟨_, List.getElem?_eq_getElem hlen⟩
  rw [List.getElem_zip, Prod.mk.injEq] at hget
  obtain ⟨_, la, _, ha, hta⟩ := Layout.sameFields_getElem? x.sameFields_layout (i := i) ht
  obtain ⟨_, lb, _, hb, htb⟩ := Layout.sameFields_getElem? y.sameFields_layout (i := i) (h ▸ ht)
  simp only [List.length_zip, Nat.lt_min] at hi
  simp only [List.getElem?_map, List.getElem?_eq_getElem hi.1, hget.1, Option.map_some,
    Option.some.injEq, Prod.mk.injEq] at ha
  simp only [List.getElem?_map, List.getElem?_eq_getElem hi.2, hget.2, Option.map_some,
    Option.some.injEq, Prod.mk.injEq] at hb
  obtain ⟨-, rfl, -⟩ := ha
  obtain ⟨-, rfl, -⟩ := hb
  have hfit := y.batch.typed b (List.of_mem_zip hab).2 cell hcell
  rwa [← Layout.fits_of_same htb, Layout.fits_of_same hta] at hfit

def append (x y : Slice) (h : x.schema = y.schema) : Slice where
  schema := x.schema
  batch :=
    { rows := x.rows + y.rows
      columns := (x.batch.columns.zip y.batch.columns).map fun (a, b) =>
        (a.1, ⟨a.2.layout, a.2.cells ++ b.2.cells⟩)
      rectangular := by
        intro c hc
        obtain ⟨⟨a, b⟩, hab, rfl⟩ := List.mem_map.mp hc
        obtain ⟨ha, hb⟩ := List.of_mem_zip hab
        have hx : a.2.cells.length = x.rows := x.batch.rectangular a ha
        have hy : b.2.cells.length = y.rows := y.batch.rectangular b hb
        simp [Column.size, hx, hy]
      typed := by
        intro c hc cell hcell
        obtain ⟨⟨a, b⟩, hab, rfl⟩ := List.mem_map.mp hc
        rcases List.mem_append.mp hcell with hcell | hcell
        · exact x.batch.typed a (List.of_mem_zip hab).1 cell hcell
        · exact fits_of_mem_zip h hab hcell }
  importTime := x.importTime
  accepted := by
    have hfst {β : Type} (f : String × Column → β) :
        (x.batch.columns.zip y.batch.columns).map (fun ab => f ab.1) = x.batch.columns.map f := by
      have hzip : (x.batch.columns.zip y.batch.columns).map (·.1) = x.batch.columns :=
        List.map_fst_zip (by simp [length_columns, h])
      have hmap := congrArg (List.map f) hzip
      rwa [List.map_map] at hmap
    obtain ⟨hnames, hlayout⟩ := (x.schema.mismatch?_eq_none_iff x.batch).mp x.accepted
    refine (x.schema.mismatch?_eq_none_iff _).mpr ⟨?_, ?_⟩
    · rw [← hnames, List.map_map]
      exact hfst (·.1)
    · rw [← hlayout, Batch.layout, Batch.layout, List.map_map]
      exact congrArg (fun fields => (Layout.struct fields).unnamed)
        (hfst fun c => (c.1, c.2.layout, true))

theorem isConcat_append (hschema : x.schema = y.schema) (htime : x.importTime = y.importTime) :
    x.IsConcat y (x.append y hschema) where
  schema_left := rfl
  schema_right := hschema
  importTime_left := rfl
  importTime_right := htime
  rows := rfl
  cells := by
    simp [append, Batch.cellLists, List.zipWith_map, List.zip]

/-! ### Columns of concatenations -/

/-- The rows of the columns, as they make up the column of whole rows. -/
def rowCells (lists : List (List Cell)) (row : Nat) : List Cell :=
  lists.map fun cells => cells[row]?.getD .null

theorem cells_rootColumn (x : Slice) :
    x.rootColumn.cells =
      (List.range x.rows).map fun row => .record true (rowCells x.batch.cellLists row) := by
  simp [rootColumn, rowCells, Batch.cellLists, Function.comp_def]

theorem rowCells_append_left {xs ys : List (List Cell)} {n row : Nat}
    (hlen : xs.length = ys.length) (hxs : ∀ cells ∈ xs, cells.length = n) (hrow : row < n) :
    rowCells (List.zipWith (· ++ ·) xs ys) row = rowCells xs row := by
  induction xs generalizing ys with
  | nil => simp [rowCells]
  | cons cells xs ih =>
    cases ys with
    | nil => simp at hlen
    | cons cells' ys =>
      have hn : row < cells.length := by
        have := hxs cells (by simp)
        omega
      have htail := ih (Nat.succ.inj hlen) fun d hd => hxs d (List.mem_cons_of_mem _ hd)
      simp only [rowCells] at htail
      simp [rowCells, List.getElem?_append_left hn, htail]

theorem rowCells_append_right {xs ys : List (List Cell)} {n row : Nat}
    (hlen : xs.length = ys.length) (hxs : ∀ cells ∈ xs, cells.length = n) :
    rowCells (List.zipWith (· ++ ·) xs ys) (n + row) = rowCells ys row := by
  induction xs generalizing ys with
  | nil =>
    obtain rfl : ys = [] := List.eq_nil_of_length_eq_zero hlen.symm
    simp [rowCells]
  | cons cells xs ih =>
    cases ys with
    | nil => simp at hlen
    | cons cells' ys =>
      have hn : cells.length = n := hxs cells (by simp)
      have htail := ih (Nat.succ.inj hlen) fun d hd => hxs d (List.mem_cons_of_mem _ hd)
      simp only [rowCells] at htail
      have hright : (cells ++ cells')[n + row]? = cells'[row]? := by
        rw [List.getElem?_append_right (by omega)]
        congr 1
        omega
      simp [rowCells, hright, htail]

namespace IsConcat

theorem cells_rootColumn (h : x.IsConcat y z) :
    z.rootColumn.cells = x.rootColumn.cells ++ y.rootColumn.cells := by
  have hlen := length_cellLists_eq (h.schema_left.symm.trans h.schema_right)
  have hrows : ∀ cells ∈ x.batch.cellLists, cells.length = x.rows :=
    fun _ hcells => length_of_mem_cellLists hcells
  have hleft : ∀ row ∈ List.range x.rows, Cell.record true (rowCells z.batch.cellLists row) =
      .record true (rowCells x.batch.cellLists row) := by
    intro row hrow
    rw [h.cells, rowCells_append_left hlen hrows (List.mem_range.mp hrow)]
  have hright : ∀ row ∈ List.range y.rows,
      Cell.record true (rowCells z.batch.cellLists (x.rows + row)) =
        .record true (rowCells y.batch.cellLists row) := by
    intro row _
    rw [h.cells, rowCells_append_right hlen hrows]
  rw [Slice.cells_rootColumn, Slice.cells_rootColumn, Slice.cells_rootColumn, h.rows,
    List.range_add, List.map_append, List.map_map, List.map_congr_left hleft]
  exact congrArg _ (List.map_congr_left hright)

theorem isSome_column?_left (h : x.IsConcat y z) : (x.column? o).isSome = (z.column? o).isSome := by
  rw [Bool.eq_iff_iff, isSome_column?_iff, isSome_column?_iff, h.schema_left]

theorem isSome_column?_right (h : x.IsConcat y z) :
    (y.column? o).isSome = (z.column? o).isSome := by
  rw [Bool.eq_iff_iff, isSome_column?_iff, isSome_column?_iff, h.schema_right]

/-- At every offset both parts have a column and the whole has their cells, or none of them has
one. -/
theorem column? (h : x.IsConcat y z) (o : Offset) :
    (x.column? o = none ∧ y.column? o = none ∧ z.column? o = none) ∨
      ∃ a b c, x.column? o = some a ∧ y.column? o = some b ∧ z.column? o = some c ∧
        c.cells = a.cells ++ b.cells := by
  have hleft := h.isSome_column?_left (o := o)
  have hright := h.isSome_column?_right (o := o)
  cases hc : z.column? o with
  | none =>
    rw [hc] at hleft hright
    exact .inl ⟨by simpa using hleft, by simpa using hright, rfl⟩
  | some c =>
    rw [hc] at hleft hright
    obtain ⟨a, ha⟩ := Option.isSome_iff_exists.mp hleft
    obtain ⟨b, hb⟩ := Option.isSome_iff_exists.mp hright
    refine .inr ⟨a, b, c, ha, hb, rfl, ?_⟩
    rw [cells_of_column? hc, cells_of_column? ha, cells_of_column? hb, h.cells_rootColumn,
      List.map_append]

/-- The whole is given the column that both parts are given put together, or none for the reason
that they are given none. A null in one of the parts would otherwise be a reason for the whole. -/
theorem column (h : x.IsConcat y z) (hnulls : z.schema.NullsAreTopLevel) (o : Offset) :
    (∃ err, x.column o = .error err ∧ y.column o = .error err ∧ z.column o = .error err) ∨
      ∃ a b c, x.column o = .ok a ∧ y.column o = .ok b ∧ z.column o = .ok c ∧
        c.cells = a.cells ++ b.cells := by
  rw [x.column_eq_of_nullsAreTopLevel (h.schema_left ▸ hnulls) o,
    y.column_eq_of_nullsAreTopLevel (h.schema_right ▸ hnulls) o,
    z.column_eq_of_nullsAreTopLevel hnulls o]
  rcases h.column? o with ⟨ha, hb, hc⟩ | ⟨a, b, c, ha, hb, hc, hcells⟩
  · rw [ha, hb, hc]
    exact .inl ⟨_, rfl, rfl, rfl⟩
  · rw [ha, hb, hc]
    exact .inr ⟨a, b, c, rfl, rfl, rfl, hcells⟩

end IsConcat

end Slice

end EventFilter
