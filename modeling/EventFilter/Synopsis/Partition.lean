import EventFilter.Offset.Map
import EventFilter.Synopsis.Record

/-! Partition summaries: what is known of all batches of one schema in a partition. -/

namespace EventFilter

structure Partition where
  schema : Schema
  synopses : OffsetMap Synopsis := .empty
  events : UInt64 := 0
  importTime : Option (Int64 × Int64) := none

namespace Partition

/-- Sets the synopsis of a column. -/
def insert (p : Partition) (o : Offset) (s : Synopsis) : Partition :=
  { p with synopses := p.synopses.insert o s }

/-- Takes the cheaper form of every synopsis that has one. -/
def shrink (p : Partition) : Partition :=
  { p with synopses := p.synopses.map fun _ s => s.shrink?.getD s }

/-! ### Building -/

/-- A summary of no batches, with a synopsis for every leaf that the factory has one for. -/
def start (schema : Schema) (f : Factory) : Partition :=
  { schema
    synopses := schema.leaves.foldl (fun m leaf =>
      match f.make? leaf.type with
      | some s => m.insert leaf.offset s
      | none => m) .empty }

/-- The columns of the synopses, each of which can take its own. -/
def columnsFor (slice : Slice) : List (Offset × Synopsis) → Except SynopsisError (List Column)
  | [] => .ok []
  | (o, s) :: rest =>
    match slice.column o with
    | .error err => .error (.slice err)
    | .ok c =>
      match s.accepts c.layout with
      | .error err => .error err
      | .ok () =>
        match columnsFor slice rest with
        | .error err => .error err
        | .ok columns => .ok (c :: columns)

def extendRange (range : Option (Int64 × Int64)) (x : Int64) : Int64 × Int64 :=
  match range with
  | some (low, high) => (if x < low then x else low, if high < x then x else high)
  | none => (x, x)

/-- The summary after an accepted slice. -/
def absorb (p : Partition) (slice : Slice) : Partition :=
  { p with
    synopses := p.synopses.map fun o s => s.absorb (((slice.column? o).map (·.cells)).getD [])
    events := p.events + UInt64.ofNat slice.rows
    importTime := match slice.importTime with
      | some x => some (extendRange p.importTime x)
      | none => p.importTime }

/-- What becomes of the summary when a slice is added, and the outcome. The columns of all synopses
are checked before the first of them is changed. -/
def receive (p : Partition) (slice : Slice) : Partition × Except SynopsisError Unit :=
  if slice.schema ≠ p.schema then
    (p, .error (.schemaMismatch p.schema.name slice.schema.name))
  else
    match columnsFor slice p.synopses.entries with
    | .error err => (p, .error err)
    | .ok columns =>
      match p.synopses.update Synopsis.add columns with
      | (synopses, .error err) => ({ p with synopses }, .error err)
      | (synopses, .ok ()) =>
        ({ p with
          synopses
          events := p.events + UInt64.ofNat slice.rows
          importTime := match slice.importTime with
            | some x => some (extendRange p.importTime x)
            | none => p.importTime }, .ok ())

def add (p : Partition) (slice : Slice) : Except SynopsisError Partition :=
  match p.receive slice with
  | (built, .ok ()) => .ok built
  | (_, .error err) => .error err

def builtEvent (p : Partition) : LogEvent :=
  .partitionBuilt p.schema.name p.events.toNat p.synopses.entries.length

/-! ### Wire form -/

def packAll (schema : String) (fields : List QualifiedField) :
    List (Offset × Synopsis) → Except SynopsisError (List SynopsisRecord)
  | [] => .ok []
  | (o, s) :: rest =>
    match fields.find? (·.offset == o) with
    | none => .error (.unknownOffset schema o)
    | some field =>
      match SynopsisRecord.pack field s with
      | .error err => .error err
      | .ok r =>
        match packAll schema fields rest with
        | .ok rs => .ok (r :: rs)
        | .error err => .error err

def toWire (p : Partition) : Except SynopsisError Wire :=
  match packAll p.schema.name (QualifiedField.all p.schema) p.synopses.entries with
  | .error err => .error err
  | .ok records =>
    .ok (.object ([("schema", p.schema.toType.toWire), ("events", .integer p.events.toNat)] ++
      (optionalMember "import_time" rangeToWire p.importTime ++
        [("synopses", .array (records.map SynopsisRecord.toWire))])))

def encode (p : Partition) : Except SynopsisError String := Wire.text <$> p.toWire

/-- The parts of an encoded summary. -/
structure Encoded where
  schema : DataType
  events : UInt64
  importTime : Option (Int64 × Int64)
  synopses : List SynopsisRecord

def Encoded.ofWire : Wire → Except WireError Encoded :=
  Wire.asStructure ["schema", "events", "import_time", "synopses"] fun m =>
    (fun schema events importTime synopses =>
      ⟨schema, UInt64.ofNat events, importTime, synopses⟩) <$>
      m.required "schema" DataType.ofWire <*> m.required "events" (Wire.asNatural 64) <*>
      optionalOfWire m "import_time" rangeOfWire <*>
      m.required "synopses" (Wire.asList SynopsisRecord.ofWire)

/-- Puts the synopses of records in place. The field of each must have the fingerprint of the
schema. -/
def insertAll (f : Factory) (fingerprint : String) (p : Partition) :
    List SynopsisRecord → Except SynopsisError Partition
  | [] => .ok p
  | r :: rest =>
    match r.unpack f with
    | .error err => .error err
    | .ok s =>
      if r.field.fingerprint = fingerprint then
        insertAll f fingerprint (p.insert r.field.offset s) rest
      else .error (.schemaMismatch p.schema.name r.field.schema)

def ofEncoded (f : Factory) (e : Encoded) : Except SynopsisError Partition :=
  match Schema.ofType? e.schema with
  | none => .error .invalidSchema
  | some schema =>
    insertAll f schema.fingerprint { schema, events := e.events, importTime := e.importTime }
      e.synopses

def readEncoded (s : String) : Except WireError Encoded := Wire.decodeText Encoded.ofWire s

def decode (f : Factory) (s : String) : Except SynopsisError Partition :=
  match readEncoded s with
  | .ok e => ofEncoded f e
  | .error err => .error (.wire err)

/-- The events of the records that are reached, the first one that fails included. -/
def recordEvents (f : Factory) (fingerprint : String) : List SynopsisRecord → List LogEvent
  | [] => []
  | r :: rest =>
    r.unpackEvents f ++
      if (r.unpack f).isOk && r.field.fingerprint == fingerprint then
        recordEvents f fingerprint rest
      else []

def decodeEvents (f : Factory) (s : String) : List LogEvent :=
  match readEncoded s with
  | .error _ => []
  | .ok e =>
    match Schema.ofType? e.schema with
    | none => []
    | some schema => recordEvents f schema.fingerprint e.synopses

end Partition

end EventFilter
