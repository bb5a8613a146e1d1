import EventFilter.Schema.Basic
import EventFilter.Table.Cell

/-! Slices: batches of rows of one schema, and access to their columns by offset. -/

namespace EventFilter

structure Column where
  layout : Layout
  cells : List Cell

def Column.size (c : Column) : Nat := c.cells.length

def Column.nullCount (c : Column) : Nat := c.cells.countP Cell.isNull

/-- Named columns with a cell for every row. -/
structure Batch where
  rows : Nat
  columns : List (String × Column)
  rectangular : ∀ c ∈ columns, c.2.size = rows
  typed : ∀ c ∈ columns, ∀ cell ∈ c.2.cells, cell.fits c.2.layout

def Batch.ofColumns? (rows : Nat) (columns : List (String × Column)) : Option Batch :=
  if h : (∀ c ∈ columns, c.2.size = rows) ∧ ∀ c ∈ columns, ∀ cell ∈ c.2.cells, cell.fits c.2.layout
  then some ⟨rows, columns, h.1, h.2⟩
  else none

/-- How the columns of a batch differ from those of a schema. -/
inductive LayoutMismatch where
  | columnCount (expected actual : Nat)
  | columnName (expected actual : String)
  | columnLayout (name : String) (expected actual : Layout)

def LayoutMismatch.message : LayoutMismatch → String
  | columnCount expected actual =>
    "expected " ++ toString expected ++ " columns, got " ++ toString actual
  | columnName expected actual => "expected column '" ++ expected ++ "', got '" ++ actual ++ "'"
  | columnLayout name expected actual =>
    "column '" ++ name ++ "' has type " ++ actual.text ++ ", expected " ++ expected.text

inductive SliceError where
  | schemaMismatch (schema : String) (reason : LayoutMismatch)
  | invalidOffset (offset : Offset)
  | nullMask

def SliceError.message : SliceError → String
  | schemaMismatch schema reason =>
    "batch layout does not match schema '" ++ schema ++ "': " ++ reason.message
  | invalidOffset offset => "no column at offset " ++ offset.text
  | nullMask => "Invalid argument error: Arrays of type Null cannot contain a null bitmask"

/-- The first column that differs in name or layout. -/
def columnMismatch? : List Field → List (String × Column) → Option LayoutMismatch
  | (name, t) :: fields, (actual, c) :: columns =>
    if name ≠ actual then some (.columnName name actual)
    else if t.layout.same c.layout then columnMismatch? fields columns
    else some (.columnLayout actual t.layout c.layout)
  | _, _ => none

def Schema.mismatch? (s : Schema) (b : Batch) : Option LayoutMismatch :=
  if s.fields.length ≠ b.columns.length then
    some (.columnCount s.fields.length b.columns.length)
  else columnMismatch? s.fields b.columns

/-- A batch whose columns have the layout of the schema. -/
structure Slice where
  schema : Schema
  batch : Batch
  importTime : Option Int64 := none
  accepted : schema.mismatch? batch = none

namespace Slice

def ofBatch (schema : Schema) (batch : Batch) (importTime : Option Int64) :
    Except SliceError Slice :=
  match h : schema.mismatch? batch with
  | none => .ok ⟨schema, batch, importTime, h⟩
  | some reason => .error (.schemaMismatch schema.name reason)

def rows (s : Slice) : Nat := s.batch.rows

/-- The whole batch as one column of records. -/
def rootColumn (s : Slice) : Column where
  layout := .struct (s.batch.columns.map fun (name, c) => (name, c.layout, true))
  cells := (List.range s.rows).map fun row =>
    .record true (s.batch.columns.map fun (_, c) => c.cells[row]?.getD .null)

end Slice

/-- The column of a field of records. -/
def Column.field? (c : Column) (i : Nat) : Option Column :=
  match c.layout with
  | .struct fields =>
    match fields[i]? with
    | some (_, l, _) => some ⟨l, c.cells.map fun cell => (cell.field? i).getD .null⟩
    | none => none
  | _ => none

/-- The column that a path of fields leads to. -/
def Column.descend? (c : Column) : Offset → Option Column
  | [] => some c
  | i :: rest =>
    match c.field? i with
    | some inner => inner.descend? rest
    | none => none

/-- The column at the end of the path, where every column on the way takes over the nulls of the
records before it. One of nothing but nulls has no mask for them. The path is what is left of the
offset. -/
def Column.reach (offset : Offset) (c : Column) : Offset → Except SliceError Column
  | [] => .ok c
  | i :: rest =>
    match c.field? i with
    | some inner =>
      if inner.layout.isNull ∧ 0 < c.nullCount then .error .nullMask
      else inner.reach offset rest
    | none => .error (.invalidOffset offset)

namespace Slice

/-- The column that is there at an offset, whether or not it can be given. -/
def column? (s : Slice) : Offset → Option Column
  | [] => some s.rootColumn
  | i :: rest =>
    match s.batch.columns[i]? with
    | some (_, c) => c.descend? rest
    | none => none

/-- The column at an offset. The root offset stands for the whole batch. -/
def column (s : Slice) (o : Offset) : Except SliceError Column :=
  match o with
  | [] => .ok s.rootColumn
  | i :: rest =>
    match s.batch.columns[i]? with
    | some (_, c) => c.reach o rest
    | none => .error (.invalidOffset o)

end Slice

end EventFilter
