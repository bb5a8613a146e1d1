import EventFilter.Proofs.Table.Columns

/-! The cells of a column at an offset. Which offsets have a column is a matter of the schema alone,
and the column is made of what each row has there. -/

namespace EventFilter

/-- What a cell has at the end of a path of fields; a null where the path leads nowhere. -/
def Cell.at (c : Cell) : Offset → Cell
  | [] => c
  | i :: rest => ((c.field? i).getD .null).at rest

theorem Column.cells_of_descend? {c d : Column} {o : Offset} (h : c.descend? o = some d) :
    d.cells = c.cells.map (·.at o) := by
  induction o generalizing c with
  | nil =>
    obtain rfl : c = d := by simpa [descend?] using h
    simp [Cell.at]
  | cons i rest ih =>
    cases hi : c.field? i with
    | none => simp [descend?, hi] at h
    | some inner =>
      obtain ⟨_, _, _, _, _, hcells⟩ := field?_eq_some hi
      have hinner := ih (c := inner) (by simpa [descend?, hi] using h)
      rw [hinner, hcells, List.map_map]
      rfl

theorem Layout.getElem?_of_sameFields {fs : List Field} {ls : List (String × Layout × Bool)}
    {i : Nat} (h : sameFields (fieldLayouts fs) ls) (hi : fs[i]? = none) : ls[i]? = none := by
  induction fs generalizing ls i with
  | nil =>
    cases ls with
    | nil => rfl
    | cons _ _ => simp [fieldLayouts, sameFields] at h
  | cons f fs ih =>
    obtain ⟨name, t⟩ := f
    cases ls with
    | nil => rfl
    | cons l ls =>
      simp only [fieldLayouts, sameFields, Bool.and_eq_true] at h
      cases i with
      | zero => simp at hi
      | succ i => simpa using ih h.2 (by simpa using hi)

theorem Column.field?_of_not_record {t : DataType} {c : Column} (hrecord : t.isRecord = false)
    (h : t.layout.same c.layout) (i : Nat) : c.field? i = none := by
  have hstruct (ls) : c.layout ≠ .struct ls := by
    intro hls
    rw [hls] at h
    cases t with
    | scalar k a => cases k <;> simp [DataType.layout, Scalar.layout, Layout.same] at h
    | list u a => simp [DataType.layout, Layout.same] at h
    | record fs a => simp [DataType.isRecord, DataType.fields?] at hrecord
  unfold field?
  split
  · rename_i ls hls
    exact absurd hls (hstruct ls)
  · rfl

theorem Column.isSome_descend?_iff {fs : List Field} {c : Column}
    {ls : List (String × Layout × Bool)} {o : Offset} (hc : c.layout = .struct ls)
    (hsame : Layout.sameFields (fieldLayouts fs) ls) (ho : o ≠ []) :
    (c.descend? o).isSome ↔ (Schema.fieldAt? fs o).isSome := by
  constructor
  · intro h
    induction o generalizing fs c ls with
    | nil => exact absurd rfl ho
    | cons i rest ih =>
      cases hi : fs[i]? with
      | none =>
        have hls := Layout.getElem?_of_sameFields hsame hi
        simp [descend?, field?, hc, hls] at h
      | some f =>
        obtain ⟨name, t⟩ := f
        obtain ⟨_, l, _, hls, hl⟩ := Layout.sameFields_getElem? hsame hi
        obtain ⟨d, hd, rfl⟩ := field?_of_layout hc hls
        cases rest with
        | nil => simp [Schema.fieldAt?, hi]
        | cons j rest =>
          have hdescend : (d.descend? (j :: rest)).isSome := by
            simpa only [descend?, hd] using h
          cases t with
          | record inner a =>
            obtain ⟨ls', hls', hsame'⟩ := Layout.struct_of_same hl
            simpa [Schema.fieldAt?, hi] using ih hls' hsame' (by simp) hdescend
          | scalar k a =>
            have hnone := field?_of_not_record rfl hl j
            simp [descend?, hnone] at hdescend
          | list u a =>
            have hnone := field?_of_not_record rfl hl j
            simp [descend?, hnone] at hdescend
  · intro h
    obtain ⟨⟨name, t⟩, hfield⟩ := Option.isSome_iff_exists.mp h
    obtain ⟨d, hd, -⟩ := descend?_of_fieldAt? hc hsame hfield
    simp [hd]

namespace Slice

variable {x : Slice} {o : Offset}

/-- There is a column for the whole rows, and one for each field of the schema. -/
theorem isSome_column?_iff : (x.column? o).isSome ↔ o = [] ∨ (x.schema.field? o).isSome := by
  by_cases ho : o = []
  · subst ho
    simp [column?]
  · rw [x.column?_eq_descend?]
    simp only [ho, false_or]
    exact Column.isSome_descend?_iff rfl x.sameFields_layout ho

theorem cells_of_column? {c : Column} (h : x.column? o = some c) :
    c.cells = x.rootColumn.cells.map (·.at o) := by
  rw [x.column?_eq_descend?] at h
  exact Column.cells_of_descend? h

end Slice

end EventFilter
