import EventFilter.Proofs.Table.Layout
import EventFilter.Proofs.Table.NullFields

/-! What rows have stored at the offset of a field, and what its column shows of it. A record keeps
the cells of its fields where it is null itself; the column of a field shows the stored cell in the
rows in which no record around the field is null, and a null in the others. -/

namespace EventFilter

namespace Cell

/-- The records along a path of fields, from the outermost one on, and the cell at its end, all as
they are stored. -/
def stored? : Cell → Offset → Option (List Cell × Cell)
  | c, [] => some ([], c)
  | .record present fields, i :: path => do
    let c ← fields[i]?
    let (records, own) ← c.stored? path
    return (.record present fields :: records, own)
  | _, _ :: _ => none

variable {c own : Cell} {o : Offset} {records fields : List Cell} {present : Bool} {i : Nat}

@[simp] theorem stored?_nil (c : Cell) : c.stored? [] = some ([], c) := by
  cases c <;> rfl

theorem stored?_cons_eq_some_iff : (record present fields).stored? (i :: o) = some (records, own) ↔
    ∃ c rest, fields[i]? = some c ∧ c.stored? o = some (rest, own) ∧
      records = record present fields :: rest := by
  simp only [stored?, Option.bind_eq_bind, Option.bind_eq_some_iff, Option.pure_def,
    Option.some.injEq, Prod.mk.injEq, Prod.exists]
  constructor
  · rintro ⟨c, hfield, rest, d, hrest, rfl, rfl⟩
    exact ⟨c, rest, hfield, hrest, rfl⟩
  · rintro ⟨c, rest, hfield, hrest, rfl⟩
    exact ⟨c, hfield, rest, own, hrest, rfl, rfl⟩

theorem exists_record_of_stored? (h : c.stored? (i :: o) = some (records, own)) :
    ∃ present fields, c = record present fields := by
  cases c with
  | record present fields => exact ⟨present, fields, rfl⟩
  | _ => simp [stored?] at h

theorem isNull_hidden (c : Cell) : c.hidden.isNull := by
  cases c <;> rfl

/-- Nothing below a null record is shown. -/
theorem at_hidden (h : c.stored? o = some (records, own)) : c.hidden.at o = own.hidden := by
  induction o generalizing c records with
  | nil =>
    obtain ⟨-, rfl⟩ : [] = records ∧ c = own := by simpa using h
    rfl
  | cons i o ih =>
    obtain ⟨present, fields, rfl⟩ := exists_record_of_stored? h
    obtain ⟨d, rest, hfield, hrest, -⟩ := stored?_cons_eq_some_iff.mp h
    simpa [hidden, Cell.at, field?, hfield] using ih hrest

theorem at_of_stored? (h : c.stored? o = some (records, own)) :
    c.at o = if records.any isNull then own.hidden else own := by
  induction o generalizing c records with
  | nil =>
    obtain ⟨rfl, rfl⟩ : [] = records ∧ c = own := by simpa using h
    rfl
  | cons i o ih =>
    obtain ⟨present, fields, rfl⟩ := exists_record_of_stored? h
    obtain ⟨d, rest, hfield, hrest, rfl⟩ := stored?_cons_eq_some_iff.mp h
    -- the first null record on the way hides all that is below
    cases present with
    | true => simpa [Cell.at, field?, hfield, isNull] using ih hrest
    | false => simpa [Cell.at, field?, hfield, isNull] using at_hidden hrest

/-- A cell of the type's layout has something stored at each field of the type. -/
theorem exists_stored? {t u : DataType} {l : Layout} {names : List String} (hsame : t.layout.same l)
    (hfits : c.fits l) (hpath : t.descend? o = some (names, u)) :
    ∃ records own, c.stored? o = some (records, own) := by
  induction o generalizing t l c names with
  | nil => exact ⟨[], c, stored?_nil c⟩
  | cons i o ih =>
    cases t with
    | scalar k a => simp [DataType.descend?] at hpath
    | list v a => simp [DataType.descend?] at hpath
    | record fs a =>
      obtain ⟨name, rest, v, hfield, hrest, -⟩ := DataType.descend?_cons_eq_some_iff.mp hpath
      obtain ⟨ls, rfl, hfields⟩ := Layout.struct_of_same hsame
      obtain ⟨_, k, _, hlayout, hinner⟩ := Layout.sameFields_getElem? hfields hfield
      cases c with
      | record present cells =>
        obtain ⟨d, hcell, hd⟩ := fitsFields_getElem? (by simpa [fits] using hfits) hlayout
        obtain ⟨records, own, hstored⟩ := ih hinner hd hrest
        exact ⟨_, own, stored?_cons_eq_some_iff.mpr ⟨d, records, hcell, hstored, rfl⟩⟩
      | _ => simp [fits] at hfits

/-- Only records keep something where they are null. -/
theorem eq_null_of_isNull {t : DataType} {l : Layout} (ht : t.isRecord = false)
    (hsame : t.layout.same l) (hfits : c.fits l) (hnull : c.isNull) : c = null := by
  cases c with
  | null => rfl
  | record present cells =>
    cases l with
    | struct ls =>
      cases t with
      | record => simp [DataType.isRecord, DataType.fields?] at ht
      | scalar k a => cases k <;> simp [DataType.layout, Scalar.layout, Layout.same] at hsame
      | list u a => simp [DataType.layout, Layout.same] at hsame
    | _ => simp [fits] at hfits
  | _ => simp [isNull] at hnull

end Cell

namespace Slice

/-- What a row has stored at the offset of a field, with the records around it. -/
def stored? (x : Slice) (row : Nat) : Offset → Option (List Cell × Cell)
  | [] => none
  | i :: path => do
    let (_, c) ← x.batch.columns[i]?
    let cell ← c.cells[row]?
    cell.stored? path

variable {x : Slice} {o : Offset} {row : Nat} {c : Column} {records : List Cell} {own : Cell}

theorem exists_stored? {name : String} {t : DataType} (h : x.schema.field? o = some (name, t))
    (hrow : row < x.rows) : ∃ records own, x.stored? row o = some (records, own) := by
  obtain ⟨names, hpath⟩ := Schema.exists_descend?_of_fieldAt? {} h
  cases o with
  | nil => simp [Schema.field?, Schema.fieldAt?] at h
  | cons i path =>
    obtain ⟨_, rest, u, hfield, hrest, -⟩ := DataType.descend?_cons_eq_some_iff.mp hpath
    obtain ⟨_, l, _, hlayout, hsame⟩ := Layout.sameFields_getElem? x.sameFields_layout hfield
    rw [List.getElem?_map, Option.map_eq_some_iff] at hlayout
    obtain ⟨⟨_, c⟩, hcolumn, hc⟩ := hlayout
    obtain rfl : c.layout = l := congrArg (·.2.1) hc
    have hmem := List.mem_of_getElem? hcolumn
    have hsize : row < c.cells.length := by
      have hrows : c.cells.length = x.rows := x.batch.rectangular _ hmem
      omega
    have hfits : (c.cells[row]).fits c.layout :=
      x.batch.typed _ hmem _ (List.getElem_mem hsize)
    obtain ⟨records, own, hstored⟩ := Cell.exists_stored? hsame hfits hrest
    exact ⟨records, own, by simp [stored?, hcolumn, List.getElem?_eq_getElem hsize, hstored]⟩

theorem cell_of_column? (hc : x.column? o = some c) (h : x.stored? row o = some (records, own)) :
    c.cells[row]? = some (if records.any Cell.isNull then own.hidden else own) := by
  cases o with
  | nil => simp [stored?] at h
  | cons i path =>
    simp only [stored?, Option.bind_eq_bind, Option.bind_eq_some_iff, Prod.exists] at h
    obtain ⟨name, d, hcolumn, cell, hcell, hstored⟩ := h
    have hrow : row < x.rows := by
      have hrows : d.cells.length = x.rows :=
        x.batch.rectangular _ (List.mem_of_getElem? hcolumn)
      have := (List.getElem?_eq_some_iff.mp hcell).1
      omega
    rw [cells_of_column? hc, ← Cell.at_of_stored? hstored]
    simp [rootColumn, hrow, Cell.at, Cell.field?, hcolumn, hcell]

end Slice

def homeSchema : Schema :=
  ⟨"person", [("user", .record [("name", .scalar .string),
    ("home", .record [("city", .scalar .string)])])], []⟩

/-- In the first row the user is null around a home that is not; in the second one the home is. -/
def homeSlice : Slice where
  schema := homeSchema
  batch :=
    { rows := 3
      columns := [("user", ⟨.struct [("name", .utf8, true),
          ("home", .struct [("city", .utf8, true)], true)],
        [.record false [.string "ann", .record true [.string "rome"]],
          .record true [.string "bob", .record false [.string "oslo"]],
          .record true [.null, .record true [.string "riga"]]]⟩)]
      rectangular := by simp [Column.size]
      typed := by simp [Cell.fits, Cell.fitsFields] }
  accepted := by rfl

end EventFilter
