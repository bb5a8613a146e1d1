import EventFilter.Proofs.Eval.StoredOrder

/-! Null as an element of lists. The elements without a value are read as null: the missing ones,
and all elements that are records. -/

namespace EventFilter

theorem Data.equals_null (d : Data) : d.equals .null = d.isNull := by
  cases d <;> simp [equals, order?, units?, isNull]

theorem DataType.compatible_ni_null (t : DataType) (a : Label) :
    (DataType.list t a).compatible .ni .null := by
  cases t <;> rfl

namespace Cell

variable {t : DataType} {a : Label} {l : Layout} {cell : Cell} {items : List Cell}

/-- Whether an element is missing from a list; unknown where the list is. -/
def hasNullElement? : Cell → Truth
  | list items => some (items.any isNull)
  | _ => none

/-- Whether a list of records passes for one with a missing element: it has elements, and all of
them are present. -/
def passesForMissing (t : DataType) : Cell → Bool
  | list items => t.isRecord && !items.isEmpty && !items.any isNull
  | _ => false

theorem isNull_getD_value? (c : Cell) : (c.value?.getD .null).isNull = c.value?.isNone := by
  cases c <;> rfl

theorem test_ni_null (items : List Cell) :
    (list items).test .ni .null = some (items.any (·.value?.isNone)) := by
  have hvalue : (list items).value? = some (.list (itemValues items)) := rfl
  rw [test_eq _ (by simp), hvalue, itemValues_eq_map]
  simp [storedOrder?, Data.holds, Data.contains, Data.equals_null, isNull_getD_value?,
    Function.comp_def]

theorem any_isNone_value? (hl : t.layout.same l) (hfit : ∀ item ∈ items, item.fits l) :
    items.any (·.value?.isNone) = ((list items).passesForMissing t || items.any isNull) := by
  have hitem (item : Cell) (h : item ∈ items) :
      item.value?.isNone = (t.isRecord || item.isNull) := by
    rw [Bool.eq_iff_iff, Option.isNone_iff_eq_none, value?_eq_none_iff hl (hfit item h),
      Bool.or_eq_true, or_comm]
  have hany : items.any (·.value?.isNone) = items.any fun item => t.isRecord || item.isNull := by
    rw [Bool.eq_iff_iff, List.any_eq_true, List.any_eq_true]
    exact exists_congr fun item => and_congr_right fun h => by rw [hitem item h]
  rw [hany, passesForMissing]
  cases t.isRecord with
  | false => simp
  | true =>
    cases items with
    | nil => rfl
    | cons item rest => cases (item :: rest).any isNull <;> simp

theorem null_or_list_of_fits (hl : (DataType.list t a).layout.same l) (hfit : cell.fits l) :
    cell = null ∨ ∃ items item, cell = list items ∧ t.layout.same item ∧
      ∀ c ∈ items, c.fits item := by
  cases l <;> simp [DataType.layout, Layout.same] at hl
  cases cell <;> simp [fits] at hfit
  case null => exact .inl rfl
  case list item _ items => exact .inr ⟨items, item, rfl, hl.2, hfit⟩

theorem hasNullElement?_of_passesForMissing (h : cell.passesForMissing t) :
    cell.hasNullElement? = some false := by
  cases cell with
  | list items =>
    simp only [passesForMissing, Bool.and_eq_true, Bool.not_eq_true'] at h
    rw [hasNullElement?, h.2]
  | _ => simp [passesForMissing] at h

theorem test_ni_null_of_fits (hl : (DataType.list t a).layout.same l) (hfit : cell.fits l) :
    cell.test .ni .null =
      if cell.passesForMissing t then some true else cell.hasNullElement? := by
  obtain rfl | ⟨items, item, rfl, hitem, hitems⟩ := null_or_list_of_fits hl hfit
  · rfl
  · rw [test_ni_null, any_isNone_value? hitem hitems]
    cases (list items).passesForMissing t <;> simp [hasNullElement?]

theorem test_notNi_null (cell : Cell) : cell.test .notNi .null = (cell.test .ni .null).not := by
  have hnull {op : Operator} (h : op ≠ .equal ∧ op ≠ .notEqual) :
      cell.test op .null = cell.value?.map (·.holds op .null) := by
    rw [test_eq _ fun _ => h]
    cases cell <;> rfl
  rw [hnull (by simp), hnull (by simp)]
  cases cell.value? <;> rfl

end Cell

/-- Null is looked for in lists of all types. It is found where an element is missing, and it is
unknown whether it is found where the list is missing. In lists of records, though, it is found in
every list that has elements. The negated operator has the complement for an answer. -/
theorem null_is_found_where_an_element_is_missing_but_for_records {t : DataType} {a : Label}
    {c : Column} (hl : (DataType.list t a).layout.same c.layout) (hc : c.Typed) :
    ((DataType.list t a).compatible .ni .null ∧ (DataType.list t a).compatible .notNi .null) ∧
    (c.test .ni .null = c.cells.map fun cell =>
      if cell.passesForMissing t then some true else cell.hasNullElement?) ∧
    (∀ cell ∈ c.cells, cell.passesForMissing t → cell.hasNullElement? = some false) ∧
    (∀ cell ∈ c.cells, cell.hasNullElement? = none ↔ cell.isNull) ∧
    c.test .notNi .null = (c.test .ni .null).map Truth.not := by
  refine ⟨⟨t.compatible_ni_null a, t.compatible_ni_null a⟩, ?_, ?_, ?_, ?_⟩
  · exact List.map_congr_left fun cell hcell => Cell.test_ni_null_of_fits hl (hc cell hcell)
  · exact fun cell _ h => Cell.hasNullElement?_of_passesForMissing h
  · intro cell hcell
    obtain rfl | ⟨items, _, rfl, -, -⟩ := Cell.null_or_list_of_fits hl (hc cell hcell) <;>
      simp [Cell.hasNullElement?, Cell.isNull]
  · rw [Column.test, Column.test, List.map_map]
    exact List.map_congr_left fun cell _ => cell.test_notNi_null

def hopType : DataType := .record [("port", .scalar .int64)]

/-- A missing list, an empty one, and lists of a missing and of a present hop. -/
def hopColumn : Column :=
  ⟨.list "item" (.struct [("port", .int64, true)]) true,
    [.null, .list [], .list [.record false [.null]], .list [.record true [.int64 1]]]⟩

theorem present_hop_is_taken_for_null :
    (DataType.list hopType).layout.same hopColumn.layout ∧ hopColumn.Typed ∧
    hopColumn.test .ni .null = [none, some false, some true, some true] ∧
    hopColumn.cells.map Cell.hasNullElement? = [none, some false, some true, some false] ∧
    hopColumn.test .notNi .null = [none, some true, some false, some false] := by
  have hl : (DataType.list hopType).layout.same hopColumn.layout := by rfl
  have hc : hopColumn.Typed := by simp [Column.Typed, hopColumn, Cell.fits, Cell.fitsFields]
  obtain ⟨-, hni, -, -, hnotNi⟩ := null_is_found_where_an_element_is_missing_but_for_records hl hc
  have hfound : hopColumn.test .ni .null = [none, some false, some true, some true] :=
    hni.trans (by rfl)
  refine ⟨hl, hc, hfound, by rfl, ?_⟩
  rw [hnotNi, hfound]
  rfl

end EventFilter
