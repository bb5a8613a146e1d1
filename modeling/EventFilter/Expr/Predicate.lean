import EventFilter.Data.Basic
import EventFilter.Operator
import EventFilter.Schema.Basic

/-! Predicates: comparisons of two operands, each a literal or an extractor that takes a value
from the metadata or the columns of a table. -/

namespace EventFilter

inductive MetaKey where
  | schema | schemaId | importTime
  deriving DecidableEq

def MetaKey.text : MetaKey → String
  | schema => "#schema"
  | schemaId => "#schema_id"
  | importTime => "#import_time"

def MetaKey.rank : MetaKey → Nat
  | schema => 0
  | schemaId => 1
  | importTime => 2

/-- Types and field names may stand for several columns. An offset in a schema stands for one,
and only resolution produces it. -/
inductive Extractor where
  | metadata (key : MetaKey)
  | type (t : DataType)
  | field (name : String)
  | data (schema : Schema) (offset : Offset)

inductive Operand where
  | extractor (x : Extractor)
  | literal (d : Data)

structure Predicate where
  lhs : Operand
  op : Operator
  rhs : Operand

namespace Extractor

def text : Extractor → String
  | metadata key => key.text
  | type t => ":" ++ t.text
  | field name => name
  | data schema offset => schema.name ++ offset.text

def orderKey : Extractor → OrderKey
  | metadata key => .tuple [.int 0, .int key.rank]
  | type t => .tuple [.int 1, t.orderKey]
  | field name => .tuple [.int 2, .text name]
  | data schema offset => .tuple [.int 3, schema.toType.orderKey, offset.orderKey]

theorem orderKey_injective {x y : Extractor} (h : x.orderKey = y.orderKey) : x = y := by
  cases x <;> cases y <;> simp [orderKey] at h
  · rename_i k m
    cases k <;> cases m <;> simp_all [MetaKey.rank]
  · rw [DataType.orderKey_injective _ _ h]
  · rw [h]
  · rw [Schema.toType_injective (DataType.orderKey_injective _ _ h.1),
      Offset.orderKey_injective h.2]

/-- The place of the kind among the kinds, in their declared order. -/
def rank : Extractor → Nat
  | metadata _ => 0
  | type _ => 1
  | field _ => 2
  | data _ _ => 3

def cmp : Extractor → Extractor → Ordering
  | metadata k, metadata m => compare k.rank m.rank
  | type t, type u => compare t u
  | field a, field b => compare a b
  | data s o, data u p => (compare s u).then (o.compare p)
  | x, y => compare x.rank y.rank

instance : Ord Extractor := ⟨cmp⟩

/-- Whether two extractors are the same. Offsets differ sooner than schemas and are compared
first. -/
def same : Extractor → Extractor → Bool
  | metadata k, metadata m => k == m
  | type t, type u => t == u
  | field a, field b => a == b
  | data s o, data t p => o == p && s == t
  | _, _ => false

theorem same_iff (x y : Extractor) : x.same y ↔ x = y := by
  cases x <;> cases y <;> simp [same, and_comm]

instance : DecidableEq Extractor := fun x y => decidable_of_iff (x.same y) (same_iff x y)

def isMetadata : Extractor → Bool
  | metadata _ => true
  | _ => false

end Extractor

namespace Operand

def text : Operand → String
  | extractor x => x.text
  | literal d => d.text

def orderKey : Operand → OrderKey
  | extractor x => .tuple [.int 0, x.orderKey]
  | literal d => .tuple [.int 1, d.orderKey]

theorem orderKey_injective {a b : Operand} (h : a.orderKey = b.orderKey) : a = b := by
  cases a <;> cases b <;> simp [orderKey] at h
  · rw [Extractor.orderKey_injective h]
  · rw [Data.orderKey_injective _ _ h]

/-- Extractors come before literals. -/
def cmp : Operand → Operand → Ordering
  | extractor x, extractor y => compare x y
  | extractor _, literal _ => .lt
  | literal _, extractor _ => .gt
  | literal d, literal e => compare d e

instance : Ord Operand := ⟨cmp⟩

deriving instance DecidableEq for Operand

def isExtractor : Operand → Bool
  | extractor _ => true
  | literal _ => false

def literal? : Operand → Option Data
  | extractor _ => none
  | literal d => some d

def isMetadata : Operand → Bool
  | extractor x => x.isMetadata
  | literal _ => false

end Operand

namespace Predicate

def text (p : Predicate) : String := p.lhs.text ++ " " ++ p.op.symbol ++ " " ++ p.rhs.text

def orderKey (p : Predicate) : OrderKey :=
  .tuple [p.lhs.orderKey, .int p.op.rank, p.rhs.orderKey]

theorem orderKey_injective {p q : Predicate} (h : p.orderKey = q.orderKey) : p = q := by
  obtain ⟨l, o, r⟩ := p
  obtain ⟨l', o', r'⟩ := q
  simp only [orderKey, OrderKey.tuple.injEq, List.cons.injEq, OrderKey.int.injEq, and_true] at h
  rw [Operand.orderKey_injective h.1, Operator.rank_injective (Int.ofNat.inj h.2.1),
    Operand.orderKey_injective h.2.2]

/-- Left operand first, then the operator, then the right operand. -/
def cmp (p q : Predicate) : Ordering :=
  ((compare p.lhs q.lhs).then (compare p.op.rank q.op.rank)).then (compare p.rhs q.rhs)

instance : Ord Predicate := ⟨cmp⟩

deriving instance DecidableEq for Predicate

/-- The same comparison with its operands exchanged. -/
def flipped (p : Predicate) : Predicate := ⟨p.rhs, p.op.flip, p.lhs⟩

/-- What a predicate compares, with the literal on the right of an extractor. -/
inductive Form where
  | constant (a : Data) (op : Operator) (b : Data)
  | test (x : Extractor) (op : Operator) (d : Data)
  | pair (x y : Extractor)

def form (p : Predicate) : Form :=
  match p.lhs, p.rhs with
  | .literal a, .literal b => .constant a p.op b
  | .extractor x, .literal d => .test x p.op d
  | .literal d, .extractor x => .test x p.op.flip d
  | .extractor x, .extractor y => .pair x y

/-- Moves a lone literal to the right. -/
def aligned (p : Predicate) : Predicate :=
  match p.lhs, p.rhs with
  | .literal _, .extractor _ => p.flipped
  | _, _ => p

def negated (p : Predicate) : Predicate := { p with op := p.op.negate }

def mentionsMetadata (p : Predicate) : Bool := p.lhs.isMetadata || p.rhs.isMetadata

end Predicate

end EventFilter
