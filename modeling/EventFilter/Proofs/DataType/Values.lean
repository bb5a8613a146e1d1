import EventFilter.Proofs.Table.Columns

/-! Values of data types, and the cells of a column as values of its type. A list may miss some of
its elements; records have no values. -/

namespace EventFilter

inductive Data.HasType : Data → DataType → Prop
  | bool (b : Bool) (a : Label) : HasType (.bool b) (.scalar .bool a)
  | int64 (n : Int64) (a : Label) : HasType (.int64 n) (.scalar .int64 a)
  | uint64 (n : UInt64) (a : Label) : HasType (.uint64 n) (.scalar .uint64 a)
  | double (x : Double) (a : Label) : HasType (.double x) (.scalar .double a)
  | duration (ns : Int64) (a : Label) : HasType (.duration ns) (.scalar .duration a)
  | time (ns : Int64) (a : Label) : HasType (.time ns) (.scalar .time a)
  | string (s : String) (a : Label) : HasType (.string s) (.scalar .string a)
  | blob (bytes : List UInt8) (a : Label) : HasType (.blob bytes) (.scalar .blob a)
  | list {items : List Data} {t : DataType} (a : Label)
      (typed : ∀ v ∈ items, v ≠ .null → HasType v t) : HasType (.list items) (.list t a)

namespace Cell

theorem itemValues_eq_map (items : List Cell) :
    itemValues items = items.map fun c => c.value?.getD .null := by
  induction items with
  | nil => rfl
  | cons c rest ih => simp [itemValues, ih]

theorem exists_value?_of_mem_itemValues {items : List Cell} {v : Data}
    (hv : v ∈ itemValues items) (hne : v ≠ .null) : ∃ c ∈ items, c.value? = some v := by
  rw [itemValues_eq_map, List.mem_map] at hv
  obtain ⟨c, hc, rfl⟩ := hv
  cases hvalue : c.value? with
  | none => simp [hvalue] at hne
  | some w => exact ⟨c, hc, by simp [hvalue]⟩

theorem hasType_scalar {k : Scalar} {c : Cell} {v : Data} (hfit : c.fits k.layout)
    (hv : c.value? = some v) (a : Label) : v.HasType (.scalar k a) := by
  cases k <;> cases c <;> simp [Scalar.layout, fits, value?] at hfit hv <;> subst hv <;> constructor

theorem hasType_of_fits : (t : DataType) → {l : Layout} → {c : Cell} → {v : Data} →
    t.layout.same l → c.fits l → c.value? = some v → v.HasType t
  | .scalar k a, l, c, v, hl, hfit, hv => by
    have hlayout : l = k.layout := by
      cases k <;> cases l <;> simp [DataType.layout, Scalar.layout, Layout.same] at hl ⊢
    subst hlayout
    exact hasType_scalar hfit hv a
  | .list t a, l, c, v, hl, hfit, hv => by
    cases l with
    | list name item nullable =>
      have hitem : t.layout.same item := by
        simp only [DataType.layout, Layout.same, Bool.and_eq_true] at hl
        exact hl.2
      cases c with
      | list cells =>
        have hcells : ∀ c ∈ cells, c.fits item := by simpa [fits] using hfit
        obtain rfl : Data.list (itemValues cells) = v := by simpa [value?] using hv
        refine .list a fun w hw hne => ?_
        obtain ⟨c, hc, hvalue⟩ := exists_value?_of_mem_itemValues hw hne
        exact hasType_of_fits t hitem (hcells c hc) hvalue
      | null => simp [value?] at hv
      | _ => simp [fits] at hfit
    | _ => simp [DataType.layout, Layout.same] at hl
  | .record fields a, l, c, v, hl, hfit, hv => by
    obtain ⟨ls, rfl, -⟩ := Layout.struct_of_same hl
    cases c with
    | record present cells => simp [value?] at hv
    | _ => simp [fits] at hfit

end Cell

end EventFilter
