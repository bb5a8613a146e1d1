import EventFilter.Double
import EventFilter.Pattern.Basic
import EventFilter.Text.Quoted

/-! Literal values. A time counts nanoseconds since the epoch, a duration nanoseconds. The order
of literals is structural: by kind first, then by content. -/

namespace EventFilter

inductive Data where
  | null
  | bool (b : Bool)
  | int64 (n : Int64)
  | uint64 (n : UInt64)
  | double (x : Double)
  | duration (ns : Int64)
  | time (ns : Int64)
  | string (s : String)
  | blob (bytes : List UInt8)
  | pattern (p : Pattern)
  | list (items : List Data)

namespace Data

def kindName : Data → String
  | null => "null"
  | bool _ => "bool"
  | int64 _ => "int64"
  | uint64 _ => "uint64"
  | double _ => "double"
  | duration _ => "duration"
  | time _ => "time"
  | string _ => "string"
  | blob _ => "blob"
  | pattern _ => "pattern"
  | list _ => "list"

/-- The place of the kind among the kinds, in their declared order. -/
def rank : Data → Nat
  | null => 0
  | bool _ => 1
  | int64 _ => 2
  | uint64 _ => 3
  | double _ => 4
  | duration _ => 5
  | time _ => 6
  | string _ => 7
  | blob _ => 8
  | pattern _ => 9
  | list _ => 10

def isNull : Data → Bool
  | null => true
  | _ => false

mutual

def text : Data → String
  | null => "null"
  | bool b => if b then "true" else "false"
  | int64 n => toString n.toInt
  | uint64 n => toString n.toNat
  | double x => x.text
  | duration ns => toString ns.toInt ++ "ns"
  | time ns => "@" ++ toString ns.toInt ++ "ns"
  | string s => Text.quote s
  | blob bytes => "0x" ++ Text.hexBytes bytes
  | pattern p => p.text
  | list items => "[" ++ ", ".intercalate (texts items) ++ "]"

def texts : List Data → List String
  | [] => []
  | d :: rest => d.text :: texts rest

end

def byteKey (b : UInt8) : OrderKey := .int b.toNat

theorem byteKey_injective (a b : UInt8) (h : byteKey a = byteKey b) : a = b := by
  simp only [byteKey, OrderKey.int.injEq] at h
  exact UInt8.toNat_inj.1 (by omega)

mutual

/-- Doubles take their place in the total order of bit patterns. -/
def orderKey : Data → OrderKey
  | null => .tuple [.int 0]
  | bool b => .tuple [.int 1, .int (if b then 1 else 0)]
  | int64 n => .tuple [.int 2, .int n.toInt]
  | uint64 n => .tuple [.int 3, .int n.toNat]
  | double x => .tuple [.int 4, .int x.position]
  | duration ns => .tuple [.int 5, .int ns.toInt]
  | time ns => .tuple [.int 6, .int ns.toInt]
  | string s => .tuple [.int 7, .text s]
  | blob bytes => .tuple [.int 8, .tuple (bytes.map byteKey)]
  | pattern p => .tuple [.int 9, p.orderKey]
  | list items => .tuple [.int 10, .tuple (orderKeys items)]

def orderKeys : List Data → List OrderKey
  | [] => []
  | d :: rest => d.orderKey :: orderKeys rest

end

mutual

theorem orderKey_injective : (a b : Data) → a.orderKey = b.orderKey → a = b
  | .list xs, b, h => by
    cases b <;> simp [orderKey] at h
    rw [orderKeys_injective xs _ h]
  | .null, b, h => by cases b <;> simp_all [orderKey]
  | .bool p, b, h => by
    cases b <;> simp [orderKey] at h
    rename_i q
    cases p <;> cases q <;> simp_all
  | .int64 m, b, h => by
    cases b <;> simp [orderKey] at h
    rw [Int64.toInt_inj.1 h]
  | .uint64 m, b, h => by
    cases b <;> simp [orderKey] at h
    rename_i n
    rw [UInt64.toNat_inj.1 (show m.toNat = n.toNat by omega)]
  | .double x, b, h => by
    cases b <;> simp [orderKey] at h
    rw [Double.position_injective h]
  | .duration m, b, h => by
    cases b <;> simp [orderKey] at h
    rw [Int64.toInt_inj.1 h]
  | .time m, b, h => by
    cases b <;> simp [orderKey] at h
    rw [Int64.toInt_inj.1 h]
  | .string s, b, h => by
    cases b <;> simp_all [orderKey]
  | .blob xs, b, h => by
    cases b <;> simp [orderKey] at h
    rw [OrderKey.map_injective byteKey_injective h]
  | .pattern p, b, h => by
    cases b <;> simp [orderKey] at h
    rw [Pattern.orderKey_injective h]

theorem orderKeys_injective : (xs ys : List Data) → orderKeys xs = orderKeys ys → xs = ys
  | [], ys, h => by cases ys <;> simp_all [orderKeys]
  | x :: xs, ys, h => by
    cases ys with
    | nil => simp [orderKeys] at h
    | cons y ys =>
      simp only [orderKeys, List.cons.injEq] at h
      rw [orderKey_injective x y h.1, orderKeys_injective xs ys h.2]

end

mutual

/-- The structural order: within a kind by content, doubles by their place in the total order of bit
patterns and lists element by element; across the kinds by rank. -/
def cmp : Data → Data → Ordering
  | null, null => .eq
  | bool a, bool b => compare a b
  | int64 m, int64 n => compare m.toInt n.toInt
  | uint64 m, uint64 n => compare m.toNat n.toNat
  | double x, double y => compare x.position y.position
  | duration m, duration n => compare m.toInt n.toInt
  | time m, time n => compare m.toInt n.toInt
  | string s, string t => compare s t
  | blob as, blob bs => compare as bs
  | pattern p, pattern q => compare p q
  | list as, list bs => cmpAll as bs
  | a, b => compare a.rank b.rank

def cmpAll : List Data → List Data → Ordering
  | [], [] => .eq
  | [], _ :: _ => .lt
  | _ :: _, [] => .gt
  | a :: as, b :: bs => (a.cmp b).then (cmpAll as bs)

end

instance : Ord Data := ⟨cmp⟩

instance : DecidableEq Data := fun a b =>
  decidable_of_iff (a.orderKey = b.orderKey) ⟨orderKey_injective a b, fun h => h ▸ rfl⟩

end Data

end EventFilter
