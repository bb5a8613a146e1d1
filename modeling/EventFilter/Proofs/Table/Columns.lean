import EventFilter.Table.Slice

/-! Columns of accepted slices. Every column is reached from the one of whole rows, has a cell for
each row, and holds only cells of its layout; at the offset of a field it has the field's
layout. Only columns of nulls alone may be there and yet not be given. -/

namespace EventFilter

theorem range_map_getD {α : Type} (xs : List α) (d : α) :
    (List.range xs.length).map (fun i => xs[i]?.getD d) = xs := by
  apply List.ext_getElem
  · simp
  · intro i _ hi
    simp [List.getElem?_eq_getElem hi]

theorem Cell.fits_hidden {l : Layout} {c : Cell} (h : c.fits l) : c.hidden.fits l := by
  cases c <;> cases l <;> simp_all [Cell.fits, Cell.hidden]

theorem Cell.fitsFields_getElem? {ls : List (String × Layout × Bool)} {cs : List Cell} {i : Nat}
    {name : String} {l : Layout} {nullable : Bool} (h : fitsFields ls cs)
    (hi : ls[i]? = some (name, l, nullable)) : ∃ c, cs[i]? = some c ∧ c.fits l := by
  induction ls generalizing cs i with
  | nil => simp at hi
  | cons f ls ih =>
    cases cs with
    | nil => simp [fitsFields] at h
    | cons c cs =>
      obtain ⟨fname, fl, fn⟩ := f
      simp only [fitsFields, Bool.and_eq_true] at h
      cases i with
      | zero =>
        simp only [List.getElem?_cons_zero, Option.some.injEq, Prod.mk.injEq] at hi
        obtain ⟨-, rfl, -⟩ := hi
        exact ⟨c, rfl, h.1⟩
      | succ i => simpa using ih h.2 (by simpa using hi)

theorem Cell.fits_field? {ls : List (String × Layout × Bool)} {c : Cell} {i : Nat}
    {name : String} {l : Layout} {nullable : Bool} (h : c.fits (.struct ls))
    (hi : ls[i]? = some (name, l, nullable)) : ((c.field? i).getD .null).fits l := by
  cases c with
  | record present cells =>
    obtain ⟨d, hd, hfit⟩ := Cell.fitsFields_getElem? (by simpa [Cell.fits] using h) hi
    simp only [Cell.field?, hd, Option.map_some, Option.getD_some]
    split
    · exact hfit
    · exact Cell.fits_hidden hfit
  | _ => simp [Cell.fits] at h

namespace Column

/-- All cells are of the column's layout. -/
def Typed (c : Column) : Prop := ∀ cell ∈ c.cells, cell.fits c.layout

variable {c d : Column} {o : Offset} {i : Nat}

theorem field?_eq_some (h : c.field? i = some d) :
    ∃ fields name nullable, c.layout = .struct fields ∧
      fields[i]? = some (name, d.layout, nullable) ∧
      d.cells = c.cells.map fun cell => (cell.field? i).getD .null := by
  unfold field? at h
  split at h
  · rename_i fields hlayout
    split at h
    · rename_i name l nullable hi
      cases h
      exact ⟨fields, name, nullable, hlayout, hi, rfl⟩
    · simp at h
  · simp at h

theorem Typed.field? (hc : c.Typed) (h : c.field? i = some d) : d.Typed := by
  obtain ⟨fields, name, nullable, hlayout, hi, hcells⟩ := field?_eq_some h
  intro cell hcell
  rw [hcells, List.mem_map] at hcell
  obtain ⟨a, ha, rfl⟩ := hcell
  exact Cell.fits_field? (hlayout ▸ hc a ha) hi

theorem size_of_field? (h : c.field? i = some d) : d.size = c.size := by
  obtain ⟨_, _, _, _, _, hcells⟩ := field?_eq_some h
  simp [size, hcells]

theorem Typed.descend? (hc : c.Typed) (h : c.descend? o = some d) : d.Typed := by
  induction o generalizing c with
  | nil => cases h; exact hc
  | cons i rest ih =>
    cases hi : c.field? i with
    | none => simp [Column.descend?, hi] at h
    | some inner => exact ih (hc.field? hi) (by simpa [Column.descend?, hi] using h)

theorem size_of_descend? (h : c.descend? o = some d) : d.size = c.size := by
  induction o generalizing c with
  | nil => cases h; rfl
  | cons i rest ih =>
    cases hi : c.field? i with
    | none => simp [descend?, hi] at h
    | some inner =>
      have hinner := ih (c := inner) (by simpa [descend?, hi] using h)
      exact hinner.trans (size_of_field? hi)

theorem field?_of_layout {fields : List (String × Layout × Bool)} {name : String} {l : Layout}
    {nullable : Bool} (hc : c.layout = .struct fields)
    (hi : fields[i]? = some (name, l, nullable)) : ∃ d, c.field? i = some d ∧ d.layout = l := by
  simp [field?, hc, hi]

theorem field?_of_isNull (hc : c.layout.isNull) (i : Nat) : c.field? i = none := by
  obtain ⟨layout, cells⟩ := c
  cases layout with
  | null => rfl
  | _ => simp [Layout.isNull] at hc

/-- A path that is not broken off leads to its column, or nowhere. -/
theorem reach_eq_or (offset : Offset) (c : Column) (o : Offset) :
    c.reach offset o = .error .nullMask ∨
      c.reach offset o = (c.descend? o).elim (.error (.invalidOffset offset)) .ok := by
  induction o generalizing c with
  | nil => exact .inr rfl
  | cons i rest ih =>
    cases hi : c.field? i with
    | none => exact .inr (by simp [reach, descend?, hi])
    | some inner =>
      by_cases hmask : inner.layout.isNull ∧ 0 < c.nullCount
      · exact .inl (by simp only [reach, hi, if_pos hmask])
      · simpa only [reach, descend?, hi, if_neg hmask] using ih inner

theorem descend?_append (c : Column) (path rest : Offset) :
    c.descend? (path ++ rest) = (c.descend? path).bind (·.descend? rest) := by
  induction path generalizing c with
  | nil => rfl
  | cons i path ih =>
    cases hi : c.field? i with
    | none => simp [descend?, hi]
    | some inner => simpa [descend?, hi] using ih inner

theorem reach_eq_error_nullMask_iff {offset : Offset} : c.reach offset o = .error .nullMask ↔
    ∃ path i rest records d, o = path ++ i :: rest ∧ c.descend? path = some records ∧
      0 < records.nullCount ∧ records.field? i = some d ∧ d.layout.isNull := by
  constructor
  · intro h
    induction o generalizing c with
    | nil => simp [reach] at h
    | cons i rest ih =>
      cases hi : c.field? i with
      | none => simp [reach, hi] at h
      | some inner =>
        by_cases hmask : inner.layout.isNull ∧ 0 < c.nullCount
        · exact ⟨[], i, rest, c, inner, rfl, rfl, hmask.2, hi, hmask.1⟩
        · obtain ⟨path, j, tail, records, d, rfl, hpath, hd⟩ :=
            ih (by simpa only [reach, hi, if_neg hmask] using h)
          exact ⟨i :: path, j, tail, records, d, rfl, by simpa [descend?, hi] using hpath, hd⟩
  · rintro ⟨path, i, rest, records, d, rfl, hpath, hnulls, hd, hnull⟩
    induction path generalizing c with
    | nil =>
      obtain rfl : c = records := by simpa [descend?] using hpath
      simp [reach, hd, hnull, hnulls]
    | cons j path ih =>
      cases hj : c.field? j with
      | none => simp [descend?, hj] at hpath
      | some inner =>
        have hinner := ih (c := inner) (by simpa [descend?, hj] using hpath)
        by_cases hmask : inner.layout.isNull ∧ 0 < c.nullCount
        · simp only [List.cons_append, reach, hj, if_pos hmask]
        · simpa only [List.cons_append, reach, hj, if_neg hmask] using hinner

/-- Nothing is below a column of nulls alone, so a path that is broken off at one ends there or
leads nowhere. -/
theorem isNull_of_reach {offset : Offset} (h : c.reach offset o = .error .nullMask)
    (hd : c.descend? o = some d) : d.layout.isNull := by
  obtain ⟨path, i, rest, records, inner, rfl, hpath, -, hi, hnull⟩ :=
    reach_eq_error_nullMask_iff.mp h
  have hinner : inner.descend? rest = some d := by
    simpa [descend?_append, hpath, descend?, hi] using hd
  cases rest with
  | nil =>
    obtain rfl : inner = d := by simpa [descend?] using hinner
    exact hnull
  | cons j rest => simp [descend?, field?_of_isNull hnull] at hinner

end Column

namespace Slice

variable {x : Slice} {c : Column} {o : Offset}

theorem size_rootColumn (x : Slice) : x.rootColumn.size = x.rows := by
  simp [rootColumn, Column.size]

theorem rootColumn_field? (x : Slice) (i : Nat) :
    x.rootColumn.field? i = x.batch.columns[i]?.map (·.2) := by
  unfold Column.field?
  simp only [rootColumn, List.getElem?_map]
  cases hi : x.batch.columns[i]? with
  | none => rfl
  | some named =>
    obtain ⟨name, c⟩ := named
    have hsize : c.cells.length = x.batch.rows :=
      x.batch.rectangular _ (List.mem_of_getElem? hi)
    have hcells := range_map_getD c.cells .null
    rw [hsize] at hcells
    obtain ⟨layout, cells⟩ := c
    simpa [Function.comp_def, Cell.field?, hi, rows] using hcells

theorem column?_eq_descend? (x : Slice) (o : Offset) : x.column? o = x.rootColumn.descend? o := by
  cases o with
  | nil => rfl
  | cons i rest =>
    simp only [column?, Column.descend?, rootColumn_field?]
    cases x.batch.columns[i]? <;> rfl

theorem nullCount_rootColumn (x : Slice) : x.rootColumn.nullCount = 0 := by
  simp [rootColumn, Column.nullCount, Cell.isNull]

theorem column_eq_reach (x : Slice) (o : Offset) : x.column o = x.rootColumn.reach o o := by
  cases o with
  | nil => rfl
  | cons i rest =>
    simp only [column, Column.reach, rootColumn_field?, nullCount_rootColumn]
    cases x.batch.columns[i]? <;> simp

theorem column_eq_or (x : Slice) (o : Offset) : x.column o = .error .nullMask ∨
    x.column o = (x.column? o).elim (.error (.invalidOffset o)) .ok := by
  rw [column_eq_reach, column?_eq_descend?]
  exact Column.reach_eq_or o _ o

theorem column?_of_column (h : x.column o = .ok c) : x.column? o = some c := by
  rcases column_eq_or x o with herror | hcolumn
  · simp [herror] at h
  · rw [hcolumn] at h
    cases hc : x.column? o with
    | none => simp [hc] at h
    | some d => simpa [hc] using h

/-- Only a column of nulls alone may be there and yet not be given. -/
theorem column_of_column? (h : x.column? o = some c) :
    x.column o = .ok c ∨ x.column o = .error .nullMask ∧ c.layout.isNull := by
  rcases column_eq_or x o with herror | hcolumn
  · refine .inr ⟨herror, ?_⟩
    rw [column_eq_reach] at herror
    rw [column?_eq_descend?] at h
    exact Column.isNull_of_reach herror h
  · exact .inl (by rw [hcolumn, h]; rfl)

theorem column_eq_ok_iff (hc : c.layout.isNull = false) :
    x.column o = .ok c ↔ x.column? o = some c := by
  constructor
  · exact column?_of_column
  · intro h
    rcases column_of_column? h with hok | ⟨-, hnull⟩
    · exact hok
    · simp [hc] at hnull

theorem size_of_column? (h : x.column? o = some c) : c.size = x.rows := by
  rw [column?_eq_descend?] at h
  exact (Column.size_of_descend? h).trans x.size_rootColumn

theorem typed_rootColumn (x : Slice) : x.rootColumn.Typed := by
  intro cell hcell
  simp only [rootColumn, List.mem_map, List.mem_range] at hcell
  obtain ⟨row, hrow, rfl⟩ := hcell
  simp only [Cell.fits, rootColumn]
  have htyped := x.batch.typed
  have hsize := x.batch.rectangular
  revert htyped hsize
  induction x.batch.columns with
  | nil => simp [Cell.fitsFields]
  | cons named rest ih =>
    intro htyped hsize
    obtain ⟨name, c⟩ := named
    have hlen : row < c.cells.length := by
      have := hsize (name, c) (by simp)
      simp only [Column.size] at this
      simp only [rows] at hrow
      omega
    have hhead := htyped (name, c) (by simp) c.cells[row] (List.getElem_mem hlen)
    have htail := ih (fun d hd => htyped d (List.mem_cons_of_mem _ hd))
      fun d hd => hsize d (List.mem_cons_of_mem _ hd)
    simpa [Cell.fitsFields, List.getElem?_eq_getElem hlen, hhead] using htail

theorem typed_of_column? (h : x.column? o = some c) : c.Typed := by
  rw [column?_eq_descend?] at h
  exact x.typed_rootColumn.descend? h

end Slice

/-! ### Layouts of fields -/

theorem Layout.sameFields_getElem? {fs : List Field} {ls : List (String × Layout × Bool)}
    {i : Nat} {name : String} {t : DataType} (h : sameFields (fieldLayouts fs) ls)
    (hi : fs[i]? = some (name, t)) :
    ∃ n l nullable, ls[i]? = some (n, l, nullable) ∧ t.layout.same l := by
  induction fs generalizing ls i with
  | nil => simp at hi
  | cons f fs ih =>
    obtain ⟨fname, u⟩ := f
    match ls with
    | [] => simp [fieldLayouts, sameFields] at h
    | (n, l, nullable) :: ls =>
      simp only [fieldLayouts, sameFields, Bool.and_eq_true] at h
      cases i with
      | zero =>
        simp only [List.getElem?_cons_zero, Option.some.injEq, Prod.mk.injEq] at hi
        obtain ⟨-, rfl⟩ := hi
        exact ⟨n, l, nullable, rfl, h.1.2⟩
      | succ i => simpa using ih h.2 (by simpa using hi)

theorem Layout.struct_of_same {fs : List Field} {a : Label} {l : Layout}
    (h : (DataType.record fs a).layout.same l) :
    ∃ ls, l = .struct ls ∧ sameFields (fieldLayouts fs) ls := by
  cases l with
  | struct ls => exact ⟨ls, rfl, by simpa [DataType.layout, same] using h⟩
  | _ => simp [DataType.layout, same] at h

theorem Column.descend?_of_fieldAt? {fs : List Field} {c : Column}
    {ls : List (String × Layout × Bool)} {o : Offset} {name : String} {t : DataType}
    (hc : c.layout = .struct ls) (hsame : Layout.sameFields (fieldLayouts fs) ls)
    (h : Schema.fieldAt? fs o = some (name, t)) :
    ∃ d, c.descend? o = some d ∧ t.layout.same d.layout := by
  induction o generalizing fs c ls with
  | nil => simp [Schema.fieldAt?] at h
  | cons i rest ih =>
    cases rest with
    | nil =>
      obtain ⟨n, l, nullable, hi, hl⟩ := Layout.sameFields_getElem? hsame h
      obtain ⟨d, hd, rfl⟩ := Column.field?_of_layout hc hi
      exact ⟨d, by simp [descend?, hd], hl⟩
    | cons j rest =>
      cases hi : fs[i]? with
      | none => simp [Schema.fieldAt?, hi] at h
      | some f =>
        obtain ⟨n, u⟩ := f
        cases u with
        | record inner a =>
          obtain ⟨_, l, _, hi', hl⟩ := Layout.sameFields_getElem? hsame hi
          obtain ⟨d, hd, rfl⟩ := Column.field?_of_layout hc hi'
          obtain ⟨ls', hd', hsame'⟩ := Layout.struct_of_same hl
          obtain ⟨d', hdescend, hlayout⟩ := ih hd' hsame' (by simpa [Schema.fieldAt?, hi] using h)
          exact ⟨d', by simp only [Column.descend?, hd]; exact hdescend, hlayout⟩
        | scalar k a => simp [Schema.fieldAt?, hi] at h
        | list u a => simp [Schema.fieldAt?, hi] at h

theorem sameFields_of_columnMismatch? {fs : List Field} {columns : List (String × Column)}
    (hlen : fs.length = columns.length) (h : columnMismatch? fs columns = none) :
    Layout.sameFields (fieldLayouts fs)
      (columns.map fun (name, c) => (name, c.layout, true)) := by
  induction fs generalizing columns with
  | nil =>
    have : columns = [] := List.eq_nil_of_length_eq_zero hlen.symm
    simp [this, fieldLayouts, Layout.sameFields]
  | cons f fs ih =>
    obtain ⟨name, t⟩ := f
    cases columns with
    | nil => simp at hlen
    | cons column columns =>
      obtain ⟨actual, c⟩ := column
      by_cases hname : name = actual
      · by_cases hsame : t.layout.same c.layout
        · have htail := ih (Nat.succ.inj hlen)
            (by simpa [columnMismatch?, hname, hsame] using h)
          simpa [fieldLayouts, Layout.sameFields, hsame] using htail
        · simp [columnMismatch?, hname, hsame] at h
      · simp [columnMismatch?, hname] at h

theorem Slice.sameFields_layout (x : Slice) : Layout.sameFields (fieldLayouts x.schema.fields)
    (x.batch.columns.map fun (name, c) => (name, c.layout, true)) := by
  have haccepted := x.accepted
  unfold Schema.mismatch? at haccepted
  split at haccepted
  · simp at haccepted
  · rename_i hlen
    exact sameFields_of_columnMismatch? (Decidable.not_not.mp hlen) haccepted

/-- A field of the schema has its column in every slice. -/
theorem Slice.column?_of_field? {x : Slice} {o : Offset} {name : String} {t : DataType}
    (h : x.schema.field? o = some (name, t)) :
    ∃ c, x.column? o = some c ∧ t.layout.same c.layout := by
  rw [x.column?_eq_descend?]
  exact Column.descend?_of_fieldAt? rfl x.sameFields_layout h

end EventFilter
