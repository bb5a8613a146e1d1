import EventFilter.DataType.Basic
import EventFilter.Digest.Sha256
import EventFilter.Wire.Decode

/-! The wire form of data types, and the fingerprint that identifies a type by its content. -/

namespace EventFilter

def Scalar.wireName : Scalar → String
  | null => "Null"
  | bool => "Bool"
  | int64 => "Int64"
  | uint64 => "UInt64"
  | double => "Double"
  | duration => "Duration"
  | time => "Time"
  | string => "String"
  | blob => "Blob"

def Scalar.all : List Scalar := [null, bool, int64, uint64, double, duration, time, string, blob]

def Scalar.ofWireName? (s : String) : Option Scalar := all.find? (·.wireName == s)

def Attribute.toWire (a : Attribute) : Wire :=
  .object [("key", .string a.key), ("value", (a.value.map Wire.string).getD .null)]

def Attribute.ofWire : Wire → Except WireError Attribute :=
  Wire.asStructure ["key", "value"] fun m =>
    Attribute.mk <$> m.required "key" Wire.asString <*> m.nullable "value" Wire.asString

namespace DataType

/-- The members that follow the kind of a type. Absent parts have no member. -/
def labelMembers (l : Label) : List (String × Wire) :=
  (match l.name with
    | some name => [("name", .string name)]
    | none => []) ++
  (if l.attributes.isEmpty then []
    else [("attributes", .array (l.attributes.map Attribute.toWire))])

mutual

def toWire : DataType → Wire
  | scalar k l => .object (("kind", .string k.wireName) :: labelMembers l)
  | list t l => .object (("kind", .object [("List", t.toWire)]) :: labelMembers l)
  | record fs l =>
    .object (("kind", .object [("Record", .array (fieldsToWire fs))]) :: labelMembers l)

def fieldsToWire : List Field → List Wire
  | [] => []
  | (name, t) :: rest => .object [("name", .string name), ("ty", t.toWire)] :: fieldsToWire rest

end

def fieldOfWire (typeOf : Wire → Except WireError DataType) : Wire → Except WireError Field :=
  Wire.asStructure ["name", "ty"] fun m =>
    Prod.mk <$> m.required "name" Wire.asString <*> m.required "ty" typeOf

/-- A kind is a name, or one member that holds what a list or a record is made of. A kind of any
other shape counts as malformed text. -/
def kindOfWire (typeOf : Wire → Except WireError DataType) : Wire → Except WireError DataType
  | .string s =>
    match Scalar.ofWireName? s with
    | some k => .ok (scalar k)
    | none => .error .mismatch
  | .object ((variant, payload) :: rest) => do
    if let some e := payload.nameless then throw e
    let t ← match variant with
      | "List" => list <$> typeOf payload
      | "Record" => record <$> payload.asList (fieldOfWire typeOf)
      | _ =>
        match Scalar.ofWireName? variant, payload with
        | some k, .null => pure (scalar k)
        | some _, w => w.refuse
        | none, _ => throw .mismatch
    match rest with
    | [] => return t
    | (_, w) :: _ => throw w.superfluous
  | .fault (.token _ _) => .error .malformed
  | .fault f => .error f.needed
  | _ => .error .malformed

/-- Decodes a type that is nested at most `levels` deep. -/
def decode : Nat → Wire → Except WireError DataType
  | 0 => fun _ => .error .mismatch
  | levels + 1 => Wire.asStructure ["kind", "name", "attributes"] fun m =>
    (fun t name attributes => t.setLabel { name, attributes }) <$>
      m.required "kind" (kindOfWire (decode levels)) <*>
      m.defaulted "name" none (Wire.asOption Wire.asString) <*>
      m.defaulted "attributes" [] (Wire.asList Attribute.ofWire)

/-- Every level of a type is a container of its wire form. -/
def ofWire (w : Wire) : Except WireError DataType := decode (w.depth + 1) w

/-- The canonical text of a type: its wire form with the members of every object in the order of
their keys. -/
def canonicalText (t : DataType) : String := t.toWire.sorted.text

def fingerprint (t : DataType) : String := Digest.hexDigest t.canonicalText

end DataType

end EventFilter
