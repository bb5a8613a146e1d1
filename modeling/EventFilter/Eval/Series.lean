import EventFilter.Diagnostic
import EventFilter.Selector
import EventFilter.Table.Slice

/-! Reading the column that a selector names. -/

namespace EventFilter

/-- A column together with the type it was read as. -/
structure Series where
  type : DataType
  column : Column

namespace Series

/-- A series of null cells. -/
def null (rows : Nat) : Series := ⟨.scalar .null, ⟨.null, List.replicate rows .null⟩⟩

/-- The column that the selector names. One that it does not name is read as nulls, with a
warning. -/
def read (s : Slice) (selector : Selector) : Series × List Diagnostic :=
  match selector.resolve s.schema.toType with
  | .error err =>
    (null s.rows, [.warning err.message ["schema is '" ++ s.schema.name ++ "'"]])
  | .ok offset =>
    match s.column offset with
    | .ok c => (⟨((s.schema.field? offset).map (·.2)).getD (.scalar .null), c⟩, [])
    | .error err => (null s.rows, [.warning err.message])

end Series

end EventFilter
