import EventFilter.Proofs.Schema.Leaves
import EventFilter.Proofs.Table.Paths

/-! Fields of nulls alone. Their columns have no mask for the nulls of the records around them, so
none is given where such a record is null in some row. At the top level there is no record around,
and a schema that has these fields nowhere else has a column for every field. -/

namespace EventFilter

theorem Layout.isNull_of_same {l m : Layout} (h : l.same m) : l.isNull = m.isNull := by
  cases l <;> cases m <;> first | rfl | simp [same] at h

theorem DataType.isRecord_eq_false_of_isNull {t : DataType} (h : t.layout.isNull) :
    t.isRecord = false := by
  cases t with
  | record fs a => simp [layout, Layout.isNull] at h
  | _ => rfl

/-- No field within a record is of nulls alone. -/
def Schema.NullsAreTopLevel (s : Schema) : Prop :=
  ∀ leaf ∈ s.leaves, leaf.type.layout.isNull → leaf.offset.length = 1

instance (s : Schema) : Decidable s.NullsAreTopLevel :=
  inferInstanceAs (Decidable (∀ leaf ∈ s.leaves, _ → _))

namespace Slice

variable {x : Slice} {o : Offset}

/-- A column is not given for want of a mask exactly where the path leads from a record that is null
in some row to a field of nulls alone. -/
theorem column_eq_error_nullMask_iff : x.column o = .error .nullMask ↔
    ∃ path i rest records c, o = path ++ i :: rest ∧ x.column? path = some records ∧
      0 < records.nullCount ∧ records.field? i = some c ∧ c.layout.isNull := by
  simp only [column_eq_reach, column?_eq_descend?]
  exact Column.reach_eq_error_nullMask_iff

/-- One record around a field of nulls alone. -/
def hollowSlice (present : Bool) : Slice where
  schema := ⟨"hollow", [("user", .record [("nothing", .scalar .null)])], []⟩
  batch :=
    { rows := 1
      columns := [("user", ⟨.struct [("nothing", .null, true)], [.record present [.null]]⟩)]
      rectangular := by simp [Column.size]
      typed := by simp [Cell.fits, Cell.fitsFields] }
  accepted := by rfl

example : (hollowSlice true).column [0, 0] = .ok ⟨.null, [.null]⟩ ∧
    (hollowSlice false).column [0, 0] = .error .nullMask := ⟨rfl, rfl⟩

theorem exists_leaf_of_column? {c : Column} (ho : o ≠ []) (hc : x.column? o = some c)
    (hnull : c.layout.isNull) :
    ∃ leaf ∈ x.schema.leaves, leaf.offset = o ∧ leaf.type.layout.isNull := by
  have hsome : (x.schema.field? o).isSome := by
    have h := isSome_column?_iff.mp (Option.isSome_of_eq_some hc)
    exact h.resolve_left ho
  obtain ⟨⟨name, t⟩, hfield⟩ := Option.isSome_iff_exists.mp hsome
  obtain ⟨d, hd, hsame⟩ := column?_of_field? hfield
  obtain rfl : c = d := Option.some.inj (hc.symm.trans hd)
  obtain ⟨names, hpath⟩ := Schema.exists_descend?_of_fieldAt? _ hfield
  have htype : t.layout.isNull := (Layout.isNull_of_same hsame).trans hnull
  have hleaf := DataType.isRecord_eq_false_of_isNull htype
  exact ⟨⟨o, _, t⟩, Schema.mem_leaves_iff.mpr ⟨names, hpath, rfl, hleaf⟩, rfl, htype⟩

theorem column_eq_of_nullsAreTopLevel (h : x.schema.NullsAreTopLevel) (o : Offset) :
    x.column o = (x.column? o).elim (.error (.invalidOffset o)) .ok := by
  refine (column_eq_or x o).resolve_left fun herror => ?_
  obtain ⟨path, i, rest, records, c, rfl, hrecords, hnulls, hc, hnull⟩ :=
    column_eq_error_nullMask_iff.mp herror
  have hfield : x.column? (path ++ [i]) = some c := by
    rw [column?_eq_descend?] at hrecords ⊢
    simp [Column.descend?_append, hrecords, Column.descend?, hc]
  obtain ⟨leaf, hleaf, hoffset, htype⟩ := exists_leaf_of_column? (by simp) hfield hnull
  have hlength := h leaf hleaf htype
  -- the whole rows are never null
  obtain rfl : path = [] := by simpa [hoffset] using hlength
  obtain rfl : x.rootColumn = records := by simpa [column?] using hrecords
  simp [nullCount_rootColumn] at hnulls

theorem column_eq_ok_iff_of_nullsAreTopLevel (h : x.schema.NullsAreTopLevel) {c : Column} :
    x.column o = .ok c ↔ x.column? o = some c := by
  rw [x.column_eq_of_nullsAreTopLevel h o]
  cases x.column? o <;> simp

end Slice

end EventFilter
