import EventFilter.Log
import EventFilter.Synopsis.Basic

/-! Factories: which synopsis a column of a type gets, and how stored payloads are read. -/

namespace EventFilter

/-- The synopses that the library makes itself. -/
inductive Summary where
  | bool | time
  deriving DecidableEq

/-- A synopsis that has seen nothing. -/
def Summary.empty (t : DataType) : Summary → Synopsis
  | bool => .bool { type := t }
  | time => .time { type := t }

abbrev Decoder := DataType → Payload → Except SynopsisError Synopsis

/-- Summaries by the name of a type's kind, and decoders by the name in the payload. Entries in
front shadow later ones. -/
structure Factory where
  summaries : List (String × Summary) := []
  decoders : List (String × Decoder) := []

namespace Factory

def register (f : Factory) (kind : String) (s : Summary) : Factory :=
  { f with summaries := (kind, s) :: f.summaries.filter (·.1 ≠ kind) }

def registerDecoder (f : Factory) (name : String) (d : Decoder) : Factory :=
  { f with decoders := (name, d) :: f.decoders.filter (·.1 ≠ name) }

/-- The built-in summaries, each of which can be left out. -/
def withSummaries (bool time : Bool) : Factory :=
  let f : Factory := {}
  let f := if bool then f.register Scalar.bool.name .bool else f
  if time then f.register Scalar.time.name .time else f

/-- An empty synopsis for a column of the type, if its kind has one. -/
def make? (f : Factory) (t : DataType) : Option Synopsis :=
  (f.summaries.lookup t.kindName).map (·.empty t)

/-- Reads a payload. One that no decoder can read is kept as it is. -/
def restore (f : Factory) (t : DataType) (p : Payload) : Synopsis :=
  match f.decoders.lookup p.name with
  | some decode =>
    match decode t p with
    | .ok s => s
    | .error _ => .sealed t p
  | none => .sealed t p

def restoreEvents (f : Factory) (t : DataType) (p : Payload) : List LogEvent :=
  match f.decoders.lookup p.name with
  | some decode =>
    match decode t p with
    | .ok _ => []
    | .error err => [.opaqueDecodeFailed p.name p.version.toNat err.message]
  | none => [.opaqueKept p.name p.version.toNat p.blob.length]

def sortedNames (names : List String) : List String := names.mergeSort fun a b => a ≤ b

def describeNames (names : List String) : String :=
  "[" ++ ", ".intercalate ((sortedNames names).map Text.quote) ++ "]"

def describe (f : Factory) : String :=
  "SynopsisFactory \x7b kinds: " ++ describeNames (f.summaries.map (·.1)) ++ ", decoders: " ++
    describeNames (f.decoders.map (·.1)) ++ " \x7d"

end Factory

end EventFilter
