import EventFilter.Table.Slice
import EventFilter.Wire.Reader

/-! Synopses: small summaries of the values of a column, which can rule out that any of them
satisfies a comparison. -/

namespace EventFilter

/-- How a synopsis travels: in a form of its own, or as a blob that only its maker reads. -/
inductive SynopsisKind where
  | bool | time | blob
  deriving DecidableEq

def SynopsisKind.text : SynopsisKind → String
  | bool => "bool"
  | time => "time"
  | blob => "opaque"

/-- Whether a true and whether a false was seen. -/
structure BoolSynopsis where
  type : DataType
  anyTrue : Bool := false
  anyFalse : Bool := false
  deriving DecidableEq

/-- The range of the times seen. Where none was, the least value exceeds the greatest. -/
structure TimeSynopsis where
  type : DataType
  min : Int64 := Int64.maxValue
  max : Int64 := Int64.minValue
  deriving DecidableEq

/-- The stored form of a synopsis that only the implementation of that name can read. -/
structure Payload where
  name : String
  version : UInt32
  blob : List UInt8
  deriving DecidableEq

/-- A synopsis of another maker. It gives its answers, takes every column without change and may
have a range as a cheaper form. -/
structure CustomSynopsis where
  kind : SynopsisKind
  type : DataType
  answer : Operator → Data → Option Bool
  shrunk : Option TimeSynopsis

inductive Synopsis where
  | bool (s : BoolSynopsis)
  | time (s : TimeSynopsis)
  | sealed (type : DataType) (payload : Payload)
  | custom (s : CustomSynopsis)

inductive SynopsisError where
  | noSynopsisType
  | unserializable (kind : String)
  | columnType (expected actual : String)
  | immutable (kind : String)
  | schemaMismatch (expected actual : String)
  | unknownOffset (schema : String) (offset : Offset)
  | invalidSchema
  | slice (e : SliceError)
  | wire (e : WireError)

def SynopsisError.message : SynopsisError → String
  | noSynopsisType => "no synopsis type"
  | unserializable kind => "synopsis of kind " ++ kind ++ " cannot be serialized"
  | columnType expected actual =>
    "synopsis for " ++ expected ++ " cannot summarize a column of type " ++ actual
  | immutable kind => "synopsis of kind " ++ kind ++ " is immutable"
  | schemaMismatch expected actual =>
    "partition synopsis for '" ++ expected ++ "' cannot summarize schema '" ++ actual ++ "'"
  | unknownOffset schema offset =>
    "schema '" ++ schema ++ "' has no leaf at offset " ++ offset.text
  | invalidSchema => "encoded schema is not a named record type"
  | slice e => e.message
  | wire e => e.category

namespace BoolSynopsis

def see (s : BoolSynopsis) : Cell → BoolSynopsis
  | .bool true => { s with anyTrue := true }
  | .bool false => { s with anyFalse := true }
  | _ => s

/-- Sees the cells of a column until both values were seen. -/
def scan (s : BoolSynopsis) : List Cell → BoolSynopsis
  | [] => s
  | c :: rest =>
    if (s.see c).anyTrue && (s.see c).anyFalse then s.see c else (s.see c).scan rest

/-- Definite for `==` and `!=` against a boolean. -/
def lookup (s : BoolSynopsis) (op : Operator) (d : Data) : Option Bool :=
  match d, op with
  | .bool b, .equal => some (if b then s.anyTrue else s.anyFalse)
  | .bool b, .notEqual => some (if b then s.anyFalse else s.anyTrue)
  | _, _ => none

end BoolSynopsis

def Cell.time? : Cell → Option Int64
  | time x => some x
  | _ => none

namespace TimeSynopsis

def see (s : TimeSynopsis) : Cell → TimeSynopsis
  | .time x =>
    { s with min := if x < s.min then x else s.min, max := if s.max < x then x else s.max }
  | _ => s

/-- Widens the range to the least and the greatest time of a column. -/
def widen (s : TimeSynopsis) (cells : List Cell) : TimeSynopsis :=
  let times := cells.filterMap Cell.time?
  { s with
    min := match times.min? with
      | some low => if low < s.min then low else s.min
      | none => s.min
    max := match times.max? with
      | some high => if s.max < high then high else s.max
      | none => s.max }

def lookupTime (s : TimeSynopsis) (op : Operator) (x : Int64) : Option Bool :=
  match op with
  | .equal => some (s.min ≤ x && x ≤ s.max)
  | .notEqual => some !(s.min = x && s.max = x)
  | .less => some (s.min < x)
  | .lessEqual => some (s.min ≤ x)
  | .greater => some (x < s.max)
  | .greaterEqual => some (x ≤ s.max)
  | _ => none

/-- Whether some member of a list of times lies in the range; unknown if another literal is
among them. -/
def lookupAny (s : TimeSynopsis) : List Data → Option Bool
  | [] => some false
  | .time x :: rest => (lookupAny s rest).map ((s.min ≤ x && x ≤ s.max) || ·)
  | _ :: _ => none

def lookup (s : TimeSynopsis) (op : Operator) (d : Data) : Option Bool :=
  match d, op with
  | .time x, op => s.lookupTime op x
  | .list items, .isIn => s.lookupAny items
  | _, _ => none

end TimeSynopsis

namespace Synopsis

def type : Synopsis → DataType
  | bool s => s.type
  | time s => s.type
  | sealed t _ => t
  | custom s => s.type

def kind : Synopsis → SynopsisKind
  | bool _ => .bool
  | time _ => .time
  | sealed _ _ => .blob
  | custom s => s.kind

/-- Whether the synopsis can take a column of the layout. -/
def accepts (s : Synopsis) (l : Layout) : Except SynopsisError Unit :=
  match s with
  | bool b =>
    if l.same .boolean then .ok () else .error (.columnType b.type.text l.text)
  | time t =>
    if l.same .timestamp || l.same (.foreign .timestampUtc) then .ok ()
    else .error (.columnType t.type.text l.text)
  | sealed _ _ => .error (.immutable s.kind.text)
  | custom _ => .ok ()

/-- The synopsis after the cells of an accepted column. -/
def absorb (s : Synopsis) (cells : List Cell) : Synopsis :=
  match s with
  | bool b => bool (b.scan cells)
  | time t => time (t.widen cells)
  | sealed t p => sealed t p
  | custom c => custom c

def add (s : Synopsis) (c : Column) : Except SynopsisError Synopsis :=
  match s.accepts c.layout with
  | .ok () => .ok (s.absorb c.cells)
  | .error err => .error err

/-- Whether a value of the column satisfies the comparison: certainly not, certainly, or
unknown. -/
def lookup (s : Synopsis) (op : Operator) (d : Data) : Option Bool :=
  match s with
  | bool b => b.lookup op d
  | time t => t.lookup op d
  | sealed _ _ => none
  | custom c => c.answer op d

/-- A cheaper synopsis, if there is one. -/
def shrink? : Synopsis → Option Synopsis
  | custom c => c.shrunk.map time
  | _ => none

/-- The payload of a synopsis without a wire form of its own. -/
def payload : Synopsis → Except SynopsisError Payload
  | sealed _ p => .ok p
  | s => .error (.unserializable s.kind.text)

/-- Equality of contents. A synopsis of another maker has none to compare. -/
def equals : Synopsis → Synopsis → Bool
  | bool a, bool b => a = b
  | time a, time b => a = b
  | sealed t p, sealed u q => t = u && p = q
  | _, _ => false

end Synopsis

end EventFilter
