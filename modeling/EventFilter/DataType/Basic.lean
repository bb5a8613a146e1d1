import EventFilter.Order.Key

/-! Data types: scalars, lists and records, each with an optional name and attributes. -/

namespace EventFilter

inductive Scalar where
  | null | bool | int64 | uint64 | double | duration | time | string | blob
  deriving DecidableEq

def Scalar.name : Scalar → String
  | null => "null"
  | bool => "bool"
  | int64 => "int64"
  | uint64 => "uint64"
  | double => "double"
  | duration => "duration"
  | time => "time"
  | string => "string"
  | blob => "blob"

def Scalar.rank : Scalar → Nat
  | null => 0
  | bool => 1
  | int64 => 2
  | uint64 => 3
  | double => 4
  | duration => 5
  | time => 6
  | string => 7
  | blob => 8

theorem Scalar.rank_injective {k m : Scalar} (h : k.rank = m.rank) : k = m := by
  cases k <;> cases m <;> first | rfl | (simp [rank] at h)

def Scalar.isNumeric : Scalar → Bool
  | int64 | uint64 | double => true
  | _ => false

structure Attribute where
  key : String
  value : Option String
  deriving DecidableEq

instance : Ord Attribute := ⟨fun a b => (compare a.key b.key).then (compare a.value b.value)⟩

/-- The name of a type, if it has one of its own, and its attributes. -/
structure Label where
  name : Option String := none
  attributes : List Attribute := []
  deriving DecidableEq

instance : Ord Label :=
  ⟨fun l m => (compare l.name m.name).then (compare l.attributes m.attributes)⟩

inductive DataType where
  | scalar (kind : Scalar) (label : Label := {})
  | list (element : DataType) (label : Label := {})
  | record (fields : List (String × DataType)) (label : Label := {})

abbrev Field := String × DataType

namespace DataType

def label : DataType → Label
  | scalar _ l => l
  | list _ l => l
  | record _ l => l

def setLabel (l : Label) : DataType → DataType
  | scalar k _ => scalar k l
  | list t _ => list t l
  | record fs _ => record fs l

def withName (t : DataType) (name : String) : DataType :=
  t.setLabel { t.label with name := some name }

def addAttributes (t : DataType) (attributes : List Attribute) : DataType :=
  t.setLabel { t.label with attributes := t.label.attributes ++ attributes }

/-- A name alone, which stands for the type that it will turn out to be. -/
def reference (name : String) : DataType := scalar .null { name := some name }

def kindName : DataType → String
  | scalar k _ => k.name
  | list _ _ => "list"
  | record _ _ => "record"

/-- The place of the kind among the kinds, in their declared order. -/
def rank : DataType → Nat
  | scalar k _ => k.rank
  | list _ _ => 9
  | record _ _ => 10

/-- The type's own name, or else the name of its kind. -/
def name (t : DataType) : String := t.label.name.getD t.kindName

/-- The value of the first attribute with the key; the value itself may be absent. -/
def attribute? (t : DataType) (key : String) : Option (Option String) :=
  (t.label.attributes.find? (·.key == key)).map (·.value)

def fields? : DataType → Option (List Field)
  | record fs _ => some fs
  | _ => none

def isRecord (t : DataType) : Bool := t.fields?.isSome

def isReference : DataType → Bool
  | scalar .null l => l.name.isSome
  | _ => false

mutual

/-- The name of a named type stands for the whole type. -/
def text : DataType → String
  | scalar k l => l.name.getD k.name
  | list t l => l.name.getD ("list<" ++ t.text ++ ">")
  | record fs l => l.name.getD ("record\x7b" ++ ", ".intercalate (fieldTexts fs) ++ "\x7d")

def fieldTexts : List Field → List String
  | [] => []
  | (name, t) :: rest => (name ++ ": " ++ t.text) :: fieldTexts rest

end

/-! ### Order: kind, then name, then attributes -/

def attributeKey (a : Attribute) : OrderKey := .tuple [.text a.key, .option .text a.value]

def labelKeys (l : Label) : List OrderKey :=
  [.option .text l.name, .tuple (l.attributes.map attributeKey)]

mutual

def orderKey : DataType → OrderKey
  | scalar k l => .tuple (.tuple [.int k.rank] :: labelKeys l)
  | list t l => .tuple (.tuple [.int 9, t.orderKey] :: labelKeys l)
  | record fs l => .tuple (.tuple [.int 10, .tuple (fieldKeys fs)] :: labelKeys l)

def fieldKeys : List Field → List OrderKey
  | [] => []
  | (name, t) :: rest => .tuple [.text name, t.orderKey] :: fieldKeys rest

end

theorem attributeKey_injective (a b : Attribute) (h : attributeKey a = attributeKey b) : a = b := by
  obtain ⟨k, v⟩ := a
  obtain ⟨k', v'⟩ := b
  simp only [attributeKey, OrderKey.tuple.injEq, List.cons.injEq, OrderKey.text.injEq,
    and_true] at h
  rw [h.1, OrderKey.option_injective (fun x y hxy => by simpa using hxy) h.2]

theorem labelKeys_injective {l m : Label} (h : labelKeys l = labelKeys m) : l = m := by
  obtain ⟨n, as⟩ := l
  obtain ⟨n', as'⟩ := m
  simp only [labelKeys, List.cons.injEq, OrderKey.tuple.injEq, and_true] at h
  rw [OrderKey.option_injective (fun x y hxy => by simpa using hxy) h.1,
    OrderKey.map_injective attributeKey_injective h.2]

mutual

theorem orderKey_injective : (t u : DataType) → t.orderKey = u.orderKey → t = u
  | .scalar k l, u, h => by
    cases u <;> simp [orderKey] at h
    · rename_i m _
      rw [Scalar.rank_injective (show k.rank = m.rank by omega), labelKeys_injective h.2]
  | .list t l, u, h => by
    cases u <;> simp [orderKey] at h
    · rw [orderKey_injective t _ h.1, labelKeys_injective h.2]
  | .record fs l, u, h => by
    cases u <;> simp [orderKey] at h
    · rw [fieldKeys_injective fs _ h.1, labelKeys_injective h.2]

theorem fieldKeys_injective : (fs gs : List Field) → fieldKeys fs = fieldKeys gs → fs = gs
  | [], gs, h => by cases gs <;> simp_all [fieldKeys]
  | (n, t) :: fs, gs, h => by
    cases gs with
    | nil => simp [fieldKeys] at h
    | cons g gs =>
      simp only [fieldKeys, List.cons.injEq, OrderKey.tuple.injEq, OrderKey.text.injEq,
        and_true] at h
      obtain ⟨⟨hn, ht⟩, hfs⟩ := h
      rw [fieldKeys_injective fs gs hfs, hn, orderKey_injective t g.2 ht]

end

mutual

/-- The structural order. Types of one kind are ordered by what they contain before their labels. -/
def cmp : DataType → DataType → Ordering
  | list t l, list u m => (t.cmp u).then (compare l m)
  | record fs l, record gs m => (cmpFields fs gs).then (compare l m)
  | t, u => (compare t.rank u.rank).then (compare t.label u.label)

def cmpFields : List Field → List Field → Ordering
  | [], [] => .eq
  | [], _ :: _ => .lt
  | _ :: _, [] => .gt
  | (name, t) :: fs, (other, u) :: gs =>
    ((compare name other).then (t.cmp u)).then (cmpFields fs gs)

end

instance : Ord DataType := ⟨cmp⟩

instance : DecidableEq DataType := fun t u =>
  decidable_of_iff (t.orderKey = u.orderKey) ⟨orderKey_injective t u, fun h => h ▸ rfl⟩

end DataType

end EventFilter
