import EventFilter.DataType.Wire
import EventFilter.Offset

/-! Schemas: named record types that describe the rows of a table, and their leaves, the fields
that are no records themselves. -/

namespace EventFilter

structure Schema where
  name : String
  fields : List Field
  attributes : List Attribute := []

/-- A leaf with its key, the dotted path from the root without the schema's name. -/
structure Leaf where
  offset : Offset
  key : String
  type : DataType

namespace Schema

def toType (s : Schema) : DataType :=
  .record s.fields { name := some s.name, attributes := s.attributes }

/-- The schema that a named record type is. -/
def ofType? : DataType → Option Schema
  | .record fields { name := some name, attributes } => some { name, fields, attributes }
  | _ => none

theorem ofType?_toType (s : Schema) : ofType? s.toType = some s := rfl

theorem toType_injective {s u : Schema} (h : s.toType = u.toType) : s = u :=
  Option.some.inj (congrArg ofType? h)

theorem ofType?_eq_some_iff {t : DataType} {s : Schema} : ofType? t = some s ↔ t = s.toType := by
  constructor
  · intro h
    match t with
    | .record _ ⟨some _, _⟩ => cases h; rfl
  · rintro rfl
    rfl

/-- The order of their types. Schemas known to be one and the same are not looked into. -/
def cmp (shared : Bool) (s u : Schema) : Ordering :=
  if shared then .eq else compare s.toType u.toType

instance : Ord Schema := ⟨cmp false⟩

instance : DecidableEq Schema := fun s u =>
  decidable_of_iff (s.toType = u.toType) ⟨toType_injective, fun h => h ▸ rfl⟩

def fingerprint (s : Schema) : String := s.toType.fingerprint

/-- Where the path so far is empty the name stands alone. -/
def joinKey (path name : String) : String := if path.isEmpty then name else path ++ "." ++ name

mutual

def typeLeaves (offset : Offset) (key : String) : DataType → List Leaf
  | .record fields _ => fieldLeaves offset key 0 fields
  | .scalar k l => [⟨offset, key, .scalar k l⟩]
  | .list t l => [⟨offset, key, .list t l⟩]

def fieldLeaves (offset : Offset) (key : String) (i : Nat) : List Field → List Leaf
  | [] => []
  | (name, t) :: rest =>
    typeLeaves (offset.child i) (joinKey key name) t ++ fieldLeaves offset key (i + 1) rest

end

/-- All leaves, depth first in their declared order. -/
def leaves (s : Schema) : List Leaf := fieldLeaves [] "" 0 s.fields

def fieldAt? : List Field → Offset → Option Field
  | _, [] => none
  | fields, [i] => fields[i]?
  | fields, i :: j :: rest =>
    match fields[i]? with
    | some (_, .record inner _) => fieldAt? inner (j :: rest)
    | _ => none

/-- The field at an offset; none for the root and for paths that lead nowhere. -/
def field? (s : Schema) (o : Offset) : Option Field := fieldAt? s.fields o

/-- Whether `name` is the key or what follows a dot of it. -/
def isSuffix (key name : String) : Bool :=
  key == name || ('.' :: name.toList).isSuffixOf key.toList

/-- The leaves that `name` may mean: it ends the key of each, taken with or without the name of
the schema in front. -/
def namedLeaves (s : Schema) (name : String) : List Leaf :=
  if name.isEmpty then []
  else s.leaves.filter fun leaf =>
    isSuffix leaf.key name || isSuffix (s.name ++ "." ++ leaf.key) name

end Schema

/-- A leaf together with the identity of its schema. -/
structure QualifiedField where
  schema : String
  fingerprint : String
  offset : Offset
  key : String
  type : DataType
  deriving DecidableEq

namespace QualifiedField

/-- The leaves of a schema. -/
def all (s : Schema) : List QualifiedField :=
  let fingerprint := s.fingerprint
  s.leaves.map fun leaf => ⟨s.name, fingerprint, leaf.offset, leaf.key, leaf.type⟩

def of? (s : Schema) (o : Offset) : Option QualifiedField := (all s).find? (·.offset == o)

def belongsTo (q : QualifiedField) (s : Schema) : Bool := q.fingerprint == s.fingerprint

def text (q : QualifiedField) : String := q.schema ++ "." ++ q.key

def orderKey (q : QualifiedField) : OrderKey :=
  .tuple [.text q.schema, .text q.fingerprint, q.offset.orderKey, .text q.key, q.type.orderKey]

instance : Ord QualifiedField := ⟨fun p q => p.orderKey.compare q.orderKey⟩

def toWire (q : QualifiedField) : Wire :=
  .object [("schema", .string q.schema), ("fingerprint", .string q.fingerprint),
    ("offset", q.offset.toWire), ("field", .string q.key), ("ty", q.type.toWire)]

def ofWire : Wire → Except WireError QualifiedField :=
  Wire.asStructure ["schema", "fingerprint", "offset", "field", "ty"] fun m =>
    QualifiedField.mk <$> m.required "schema" Wire.asString <*>
      m.required "fingerprint" Wire.asString <*> m.required "offset" Offset.ofWire <*>
      m.required "field" Wire.asString <*> m.required "ty" DataType.ofWire

end QualifiedField

end EventFilter
