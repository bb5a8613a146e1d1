import EventFilter.Synopsis.Factory

/-! Records: a synopsis with the field that it summarizes, as it goes over the wire. -/

namespace EventFilter

/-- The contents of the synopsis in one of three forms. Several may come from the wire; the first
one counts. -/
structure SynopsisRecord where
  field : QualifiedField
  bool : Option (Bool × Bool) := none
  time : Option (Int64 × Int64) := none
  blob : Option Payload := none
  deriving DecidableEq

namespace Payload

def toWire (p : Payload) : Wire :=
  .object [("name", .string p.name), ("version", .integer p.version.toNat),
    ("blob", .array (p.blob.map fun b => .integer b.toNat))]

def ofWire : Wire → Except WireError Payload :=
  Wire.asStructure ["name", "version", "blob"] fun m =>
    (fun name version (bytes : List Nat) =>
      ⟨name, UInt32.ofNat version, bytes.map UInt8.ofNat⟩) <$>
      m.defaulted "name" "" Wire.asString <*> m.defaulted "version" 0 (Wire.asNatural 32) <*>
      m.required "blob" (Wire.asList (Wire.asNatural 8))

end Payload

def flagsToWire (flags : Bool × Bool) : Wire :=
  .object [("any_true", .bool flags.1), ("any_false", .bool flags.2)]

def flagsOfWire : Wire → Except WireError (Bool × Bool) :=
  Wire.asStructure ["any_true", "any_false"] fun m =>
    Prod.mk <$> m.required "any_true" Wire.asBool <*> m.required "any_false" Wire.asBool

def rangeToWire (range : Int64 × Int64) : Wire :=
  .object [("min", .integer range.1.toInt), ("max", .integer range.2.toInt)]

def rangeOfWire : Wire → Except WireError (Int64 × Int64) :=
  Wire.asStructure ["min", "max"] fun m =>
    Prod.mk <$> m.required "min" Wire.asInt64 <*> m.required "max" Wire.asInt64

/-- A member that is left out when it has no value. -/
def optionalMember {α : Type} (name : String) (toWire : α → Wire) : Option α → List (String × Wire)
  | some a => [(name, toWire a)]
  | none => []

/-- The value of a member that may be absent or null. -/
def optionalOfWire {α : Type} (m : Wire.Members) (name : String)
    (f : Wire → Except WireError α) : Wire.Placed (Option α) :=
  m.defaulted name none (Wire.asOption f)

namespace SynopsisRecord

def toWire (r : SynopsisRecord) : Wire :=
  .object (("qualified_field", r.field.toWire) ::
    (optionalMember "bool_synopsis" flagsToWire r.bool ++
      (optionalMember "time_synopsis" rangeToWire r.time ++
        optionalMember "opaque_synopsis" Payload.toWire r.blob)))

def ofWire : Wire → Except WireError SynopsisRecord :=
  Wire.asStructure ["qualified_field", "bool_synopsis", "time_synopsis", "opaque_synopsis"]
    fun m =>
      SynopsisRecord.mk <$> m.required "qualified_field" QualifiedField.ofWire <*>
        optionalOfWire m "bool_synopsis" flagsOfWire <*>
        optionalOfWire m "time_synopsis" rangeOfWire <*>
        optionalOfWire m "opaque_synopsis" Payload.ofWire

def encode (r : SynopsisRecord) : String := r.toWire.text

def decode (s : String) : Except WireError SynopsisRecord := Wire.decodeText ofWire s

def pack (field : QualifiedField) (s : Synopsis) : Except SynopsisError SynopsisRecord :=
  match s with
  | .bool b => .ok { field, bool := some (b.anyTrue, b.anyFalse) }
  | .time t => .ok { field, time := some (t.min, t.max) }
  | s =>
    match s.payload with
    | .ok p => .ok { field, blob := some p }
    | .error err => .error err

/-- The synopsis of a record, of the type that the record names. -/
def unpack (f : Factory) (r : SynopsisRecord) : Except SynopsisError Synopsis :=
  match r.bool, r.time, r.blob with
  | some (t, f), _, _ => .ok (.bool ⟨r.field.type, t, f⟩)
  | none, some (low, high), _ => .ok (.time ⟨r.field.type, low, high⟩)
  | none, none, some p => .ok (f.restore r.field.type p)
  | none, none, none => .error .noSynopsisType

def unpackEvents (f : Factory) (r : SynopsisRecord) : List LogEvent :=
  match r.bool, r.time, r.blob with
  | none, none, some p => f.restoreEvents r.field.type p
  | _, _, _ => []

end SynopsisRecord

end EventFilter
