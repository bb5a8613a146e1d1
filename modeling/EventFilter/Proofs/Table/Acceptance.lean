import EventFilter.Proofs.Table.Columns
import EventFilter.Proofs.Table.Layout
import EventFilter.Selector

/-! Which batches a schema accepts. The names of the columns are compared, those of nested fields
are not; only where these agree as well does a path of names lead to the column that the offset of
the field leads to. -/

namespace EventFilter

/-- The layout of the rows. -/
def Batch.layout (b : Batch) : Layout :=
  .struct (b.columns.map fun (name, c) => (name, c.layout, true))

namespace Schema

variable {fs : List Field} {columns : List (String × Column)}

theorem columnMismatch?_eq_none_iff (hlen : fs.length = columns.length) :
    columnMismatch? fs columns = none ↔ columns.map (·.1) = fs.map (·.1) ∧
      Layout.sameFields (fieldLayouts fs)
        (columns.map fun (name, c) => (name, c.layout, true)) := by
  constructor
  · intro h
    refine ⟨?_, sameFields_of_columnMismatch? hlen h⟩
    induction fs generalizing columns with
    | nil => simpa using hlen.symm
    | cons f fs ih =>
      obtain ⟨name, t⟩ := f
      cases columns with
      | nil => simp at hlen
      | cons column columns =>
        obtain ⟨actual, c⟩ := column
        by_cases hname : name = actual
        · by_cases hsame : t.layout.same c.layout
          · have htail := ih (Nat.succ.inj hlen) (by simpa [columnMismatch?, hname, hsame] using h)
            simp [hname, htail]
          · simp [columnMismatch?, hname, hsame] at h
        · simp [columnMismatch?, hname] at h
  · rintro ⟨hnames, hsame⟩
    induction fs generalizing columns with
    | nil => cases columns <;> rfl
    | cons f fs ih =>
      obtain ⟨name, t⟩ := f
      cases columns with
      | nil => rfl
      | cons column columns =>
        obtain ⟨actual, c⟩ := column
        simp only [List.map_cons, List.cons.injEq] at hnames
        simp only [fieldLayouts, List.map_cons, Layout.sameFields, Bool.and_eq_true] at hsame
        have htail := ih (Nat.succ.inj hlen) hnames.2 hsame.2
        simp [columnMismatch?, hnames.1, hsame.1.2, htail]

theorem map_fst_fieldLayouts (fs : List Field) :
    (fieldLayouts fs).map (·.1) = fs.map (·.1) := by
  induction fs with
  | nil => rfl
  | cons f fs ih => simp [fieldLayouts, ih]

theorem names_of_layout_eq {s : Schema} {b : Batch} (h : b.layout = s.toType.layout) :
    b.columns.map (·.1) = s.fields.map (·.1) := by
  have hfields :
      b.columns.map (fun (name, c) => (name, c.layout, true)) = fieldLayouts s.fields := by
    simpa [Batch.layout, toType, DataType.layout] using h
  rw [← map_fst_fieldLayouts, ← hfields]
  simp [Function.comp_def]

theorem mismatch?_eq_none_iff (s : Schema) (b : Batch) :
    s.mismatch? b = none ↔
      b.columns.map (·.1) = s.fields.map (·.1) ∧ b.layout.unnamed = s.toType.layout.unnamed := by
  have hlayout : s.toType.layout.same b.layout ↔ b.layout.unnamed = s.toType.layout.unnamed := by
    rw [Layout.same_iff]
    exact eq_comm
  have hfields : s.toType.layout.same b.layout ↔ Layout.sameFields (fieldLayouts s.fields)
      (b.columns.map fun (name, c) => (name, c.layout, true)) := by
    simp [toType, DataType.layout, Batch.layout, Layout.same]
  rw [← hlayout, hfields]
  by_cases hlen : s.fields.length = b.columns.length
  · rw [mismatch?, if_neg (by simp [hlen]), columnMismatch?_eq_none_iff hlen]
  · rw [mismatch?, if_pos hlen]
    constructor
    · intro h
      simp at h
    · rintro ⟨hnames, -⟩
      have := congrArg List.length hnames
      simp only [List.length_map] at this
      omega

end Schema

namespace Slice

theorem ofBatch_eq_ok_iff (s : Schema) (b : Batch) (time : Option Int64) (x : Slice) :
    ofBatch s b time = .ok x ↔ x.schema = s ∧ x.batch = b ∧ x.importTime = time := by
  constructor
  · intro h
    unfold ofBatch at h
    split at h
    · cases h
      exact ⟨rfl, rfl, rfl⟩
    · simp at h
  · rintro ⟨rfl, rfl, rfl⟩
    unfold ofBatch
    have haccepted := x.accepted
    split
    · rfl
    · simp_all

theorem exists_ofBatch_iff (s : Schema) (b : Batch) (time : Option Int64) :
    (∃ x, ofBatch s b time = .ok x) ↔ s.mismatch? b = none := by
  constructor
  · rintro ⟨x, hx⟩
    obtain ⟨rfl, rfl, -⟩ := (ofBatch_eq_ok_iff s b time x).mp hx
    exact x.accepted
  · intro h
    exact ⟨⟨s, b, time, h⟩, (ofBatch_eq_ok_iff s b time _).mpr ⟨rfl, rfl, rfl⟩⟩

end Slice

/-! ### Paths of names -/

/-- The position of the first nested field with the name. -/
def Layout.position? (name : String) : Layout → Option Nat
  | struct fields => fields.findIdx? (·.1 = name)
  | _ => none

/-- The column that a path of names leads to. -/
def Column.follow? (c : Column) : List String → Option Column
  | [] => some c
  | name :: rest =>
    match c.layout.position? name with
    | some i =>
      match c.field? i with
      | some inner => inner.follow? rest
      | none => none
    | none => none

theorem Selector.position?_eq_some {name : String} {fs : List Field} {i : Nat} {t : DataType}
    (h : position? name fs = some (i, t)) :
    (DataType.record fs).layout.position? name = some i ∧
      ∃ n nullable, (fieldLayouts fs)[i]? = some (n, t.layout, nullable) := by
  induction fs generalizing i with
  | nil => simp [position?] at h
  | cons f fs ih =>
    obtain ⟨n, u⟩ := f
    by_cases hn : n = name
    · obtain ⟨rfl, rfl⟩ : 0 = i ∧ u = t := by simpa [position?, hn] using h
      simp [DataType.layout, Layout.position?, fieldLayouts, List.findIdx?_cons, hn]
    · simp only [position?, hn, if_false, Option.map_eq_some_iff, Prod.mk.injEq] at h
      obtain ⟨⟨j, v⟩, hj, rfl, rfl⟩ := h
      obtain ⟨hposition, hfield⟩ := ih hj
      simp only [DataType.layout, Layout.position?] at hposition ⊢
      exact ⟨by simp [fieldLayouts, List.findIdx?_cons, hn, hposition],
        by simpa [fieldLayouts] using hfield⟩

/-- Where the names of the layout are those of the type, a path of names leads where its offset
leads. -/
theorem Column.follow?_eq_descend? {whole : String} {path : List String} {t : DataType} {c : Column}
    {o : Offset} (hlayout : c.layout = t.layout) (h : Selector.walk whole path t = .ok o) :
    c.follow? path = c.descend? o := by
  induction path generalizing t c o with
  | nil =>
    obtain rfl : [] = o := by simpa [Selector.walk] using h
    rfl
  | cons name rest ih =>
    cases t with
    | record fs a =>
      simp only [Selector.walk, DataType.fields?] at h
      cases hp : Selector.position? name fs with
      | none => simp [hp] at h
      | some found =>
        obtain ⟨i, u⟩ := found
        simp only [hp] at h
        cases hwalk : Selector.walk whole rest u with
        | error err => simp [hwalk, Functor.map, Except.map] at h
        | ok o' =>
          obtain rfl : i :: o' = o := by simpa [hwalk, Functor.map, Except.map] using h
          obtain ⟨hposition, n, nullable, hfield⟩ := Selector.position?_eq_some hp
          obtain ⟨d, hd, hdlayout⟩ := Column.field?_of_layout hlayout hfield
          have hinner := ih hdlayout hwalk
          simp only [follow?, descend?, hlayout]
          rw [show (DataType.record fs a).layout.position? name = some i from hposition]
          simp [hd, hinner]
    | scalar k a => simp [Selector.walk, DataType.fields?] at h
    | list u a => simp [Selector.walk, DataType.fields?] at h

/-- A batch is accepted iff its columns have the names of the schema's fields, in their order, and
all that is nested in them is laid out alike but for the names. It has the layout of the schema iff
these names agree, too; then every path of names leads to the column at its offset, which is the one
that is given for the offset if any is. -/
theorem batch_is_accepted_iff_layouts_agree_but_for_nested_names (s : Schema) (b : Batch)
    (time : Option Int64) :
    ((∃ x, Slice.ofBatch s b time = .ok x) ↔
      b.columns.map (·.1) = s.fields.map (·.1) ∧ b.layout.unnamed = s.toType.layout.unnamed) ∧
    (b.layout = s.toType.layout ↔
      (∃ x, Slice.ofBatch s b time = .ok x) ∧ b.layout.names = s.toType.layout.names) ∧
    (b.layout = s.toType.layout → ∀ x, Slice.ofBatch s b time = .ok x →
      ∀ (selector : Selector) (o : Offset), selector.resolve s.toType = .ok o →
        x.rootColumn.follow? selector.path = x.column? o ∧
          ∀ c, x.column o = .ok c → x.rootColumn.follow? selector.path = some c) := by
  have haccepted := (Slice.exists_ofBatch_iff s b time).trans (s.mismatch?_eq_none_iff b)
  refine ⟨haccepted, ?_, ?_⟩
  · rw [haccepted]
    constructor
    · intro h
      exact ⟨⟨Schema.names_of_layout_eq h, by rw [h]⟩, by rw [h]⟩
    · rintro ⟨⟨-, hrest⟩, hnames⟩
      exact Layout.eq_iff_unnamed_and_names.mpr ⟨hrest, hnames⟩
  · intro hlayout x hx selector o ho
    obtain ⟨rfl, rfl, -⟩ := (Slice.ofBatch_eq_ok_iff s b time x).mp hx
    have hpath : x.rootColumn.follow? selector.path = x.column? o := by
      rw [x.column?_eq_descend?]
      exact Column.follow?_eq_descend? hlayout ho
    exact ⟨hpath, fun c hc => hpath.trans (Slice.column?_of_column hc)⟩

def userSchema : Schema :=
  ⟨"conn", [("user", .record [("name", .scalar .string), ("alias", .scalar .string)])], []⟩

/-- One user called alice, known as al, in a record with the given names for its two fields. -/
def userBatch (first second : String) : Batch where
  rows := 1
  columns := [("user", ⟨.struct [(first, .utf8, true), (second, .utf8, true)],
    [.record true [.string "alice", .string "al"]]⟩)]
  rectangular := by simp [Column.size]
  typed := by simp [Cell.fits, Cell.fitsFields]

def userName : Selector := ⟨["user", "name"], by decide, by decide⟩

theorem swapped_names_are_accepted :
    userName.resolve userSchema.toType = .ok [0, 0] ∧
    (∃ x, Slice.ofBatch userSchema (userBatch "name" "alias") none = .ok x ∧
      x.column [0, 0] = .ok ⟨.utf8, [.string "alice"]⟩ ∧
      x.rootColumn.follow? userName.path = some ⟨.utf8, [.string "alice"]⟩) ∧
    (userBatch "alias" "name").layout ≠ userSchema.toType.layout ∧
    ∃ x, Slice.ofBatch userSchema (userBatch "alias" "name") none = .ok x ∧
      x.column [0, 0] = .ok ⟨.utf8, [.string "alice"]⟩ ∧
      x.rootColumn.follow? userName.path = some ⟨.utf8, [.string "al"]⟩ := by
  have hresolve : userName.resolve userSchema.toType = .ok [0, 0] := by rfl
  obtain ⟨-, -, hread⟩ :=
    batch_is_accepted_iff_layouts_agree_but_for_nested_names userSchema
      (userBatch "name" "alias") none
  obtain ⟨haccept, hlayout, -⟩ :=
    batch_is_accepted_iff_layouts_agree_but_for_nested_names userSchema
      (userBatch "alias" "name") none
  have hstraight : (userBatch "name" "alias").layout = userSchema.toType.layout := rfl
  refine ⟨hresolve, ?_, ?_, ?_⟩
  · have hx : Slice.ofBatch userSchema (userBatch "name" "alias") none =
        .ok ⟨userSchema, userBatch "name" "alias", none, by rfl⟩ := by rfl
    obtain ⟨-, hgiven⟩ := hread hstraight _ hx userName [0, 0] hresolve
    exact ⟨_, hx, rfl, hgiven _ rfl⟩
  · intro h
    have hnames := (hlayout.mp h).2
    simp [userBatch, Batch.layout, userSchema, Schema.toType, DataType.layout, fieldLayouts,
      Layout.names, Layout.fieldNames, Scalar.layout] at hnames
  · obtain ⟨x, hx⟩ := haccept.mpr ⟨rfl, rfl⟩
    obtain ⟨hschema, hbatch, -⟩ := (Slice.ofBatch_eq_ok_iff _ _ _ x).mp hx
    refine ⟨x, hx, ?_, ?_⟩
    · simp only [Slice.column, hbatch]
      rfl
    · obtain ⟨xschema, xbatch, xtime, xaccepted⟩ := x
      subst hbatch
      rfl

end EventFilter
