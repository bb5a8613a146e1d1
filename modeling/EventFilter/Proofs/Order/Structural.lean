import EventFilter.Expr.Predicate
import EventFilter.Proofs.Double
import EventFilter.Proofs.Order.Key

/-! The structural orders of literals, types, schemas, offsets, operands and predicates. Each compares
kind by kind and part by part, and is the order of the keys: where two values differ in kind the tags
of their keys do, and where they agree the parts are keys of their own. -/

namespace EventFilter

theorem Pattern.compare_eq_key (p q : Pattern) : compare p q = p.orderKey.compare q.orderKey := by
  have hflag : compare p.ignoreCase q.ignoreCase =
      compare (if p.ignoreCase then 1 else 0 : Int) (if q.ignoreCase then 1 else 0) := by
    cases p.ignoreCase <;> cases q.ignoreCase <;> rfl
  rw [orderKey, orderKey, OrderKey.compare_pair]
  exact congrArg (compare p.source q.source).then hflag

theorem Pattern.compare_eq_iff (p q : Pattern) :
    compare p q = .eq ↔ p.source = q.source ∧ p.ignoreCase = q.ignoreCase := by
  show (compare p.source q.source).then (compare p.ignoreCase q.ignoreCase) = .eq ↔ _
  rw [Ordering.then_eq_eq, Std.LawfulEqOrd.compare_eq_iff_eq, Std.LawfulEqOrd.compare_eq_iff_eq]

namespace Data

theorem compare_byteKey (a b : UInt8) : compare a b = (byteKey a).compare (byteKey b) := by
  have htoNat : compare a b = compare a.toNat b.toNat := by
    simp only [compare, compareOfLessAndEq, UInt8.lt_iff_toNat_lt, ← UInt8.toNat_inj]
  rw [htoNat, ← compare_natCast]
  rfl

mutual

theorem cmp_eq_key (a b : Data) : a.cmp b = a.orderKey.compare b.orderKey := by
  cases a <;> cases b
  case bool.bool a b => cases a <;> cases b <;> rfl
  case uint64.uint64 m n =>
    rw [orderKey, orderKey, OrderKey.compare_tagged, cmp, ← compare_natCast, OrderKey.compare]
  case int64.int64 | double.double | duration.duration | time.time | string.string =>
    rw [orderKey, orderKey, OrderKey.compare_tagged, cmp, OrderKey.compare]
  case blob.blob as bs =>
    rw [orderKey, orderKey, OrderKey.compare_tagged, cmp, OrderKey.compare,
      OrderKey.compareAll_map compare_byteKey]
  case pattern.pattern p q =>
    rw [orderKey, orderKey, OrderKey.compare_tagged, cmp, Pattern.compare_eq_key]
  case list.list as bs =>
    rw [orderKey, orderKey, OrderKey.compare_tagged, cmp, OrderKey.compare, cmpAll_eq_keys as bs]
  -- Two kinds: the tags of the keys are the ranks.
  all_goals rfl

theorem cmpAll_eq_keys : (as bs : List Data) →
    cmpAll as bs = OrderKey.compareAll (orderKeys as) (orderKeys bs)
  | [], [] => rfl
  | [], _ :: _ => rfl
  | _ :: _, [] => rfl
  | a :: as, b :: bs => by
    rw [cmpAll, orderKeys, orderKeys, OrderKey.compareAll, cmp_eq_key a b, cmpAll_eq_keys as bs]

end

theorem orderedByKey : OrderedByKey (compare : Data → Data → Ordering) orderKey :=
  ⟨cmp_eq_key, orderKey_injective⟩

theorem compare_double_eq_iff (x y : Double) :
    compare (double x) (double y) = .eq ↔ x.bits = y.bits := by
  show compare x.position y.position = .eq ↔ _
  rw [Std.LawfulEqOrd.compare_eq_iff_eq, Double.position_eq_iff]
  cases x
  cases y
  rw [Double.mk.injEq]

end Data

namespace DataType

theorem compare_optionalText (x y : Option String) :
    compare x y = (OrderKey.option .text x).compare (.option .text y) :=
  OrderKey.compare_option (fun s t => by rw [OrderKey.compare]) x y

theorem compare_attributeKey (a b : Attribute) :
    compare a b = (attributeKey a).compare (attributeKey b) := by
  rw [attributeKey, attributeKey, OrderKey.compare_pair, ← compare_optionalText, OrderKey.compare]
  rfl

theorem compare_labelKeys (l m : Label) :
    compare l m = OrderKey.compareAll (labelKeys l) (labelKeys m) := by
  have hattributes : compare l.attributes m.attributes =
      OrderKey.compareAll (l.attributes.map attributeKey) (m.attributes.map attributeKey) :=
    OrderKey.compareAll_map compare_attributeKey l.attributes m.attributes
  show (compare l.name m.name).then (compare l.attributes m.attributes) = _
  rw [compare_optionalText, hattributes]
  simp [labelKeys, OrderKey.compareAll, OrderKey.compare]

mutual

theorem cmp_eq_key (t u : DataType) : t.cmp u = t.orderKey.compare u.orderKey := by
  cases t <;> cases u
  case list.list t l u m =>
    simp only [cmp, orderKey, OrderKey.compare, OrderKey.compareAll, cmp_eq_key t u,
      compare_labelKeys, Std.compare_self, Ordering.eq_then, Ordering.then_eq]
  case record.record fs l gs m =>
    simp only [cmp, orderKey, OrderKey.compare, OrderKey.compareAll, cmpFields_eq_keys fs gs,
      compare_labelKeys, Std.compare_self, Ordering.eq_then, Ordering.then_eq]
  case scalar.scalar k l m r =>
    simp only [cmp, rank, label, orderKey, OrderKey.compare, OrderKey.compareAll, compare_natCast,
      compare_labelKeys, Ordering.then_eq]
  case scalar.list k _ _ _ | scalar.record k _ _ _ => cases k <;> rfl
  case list.scalar _ _ k _ | record.scalar _ _ k _ => cases k <;> rfl
  all_goals rfl

theorem cmpFields_eq_keys : (fs gs : List Field) →
    cmpFields fs gs = OrderKey.compareAll (fieldKeys fs) (fieldKeys gs)
  | [], [] => rfl
  | [], _ :: _ => rfl
  | _ :: _, [] => rfl
  | (name, t) :: fs, (other, u) :: gs => by
    rw [cmpFields, fieldKeys, fieldKeys, OrderKey.compareAll, OrderKey.compare_pair,
      OrderKey.compare, cmp_eq_key t u, cmpFields_eq_keys fs gs]

end

theorem orderedByKey : OrderedByKey (compare : DataType → DataType → Ordering) orderKey :=
  ⟨cmp_eq_key, orderKey_injective⟩

end DataType

theorem Schema.orderedByKey :
    OrderedByKey (compare : Schema → Schema → Ordering) fun s => s.toType.orderKey where
  cmp_eq s u := DataType.cmp_eq_key s.toType u.toType
  injective s u h := toType_injective (DataType.orderKey_injective s.toType u.toType h)

namespace Offset

theorem orderedByKey : OrderedByKey Offset.compare orderKey :=
  ⟨fun _ _ => rfl, fun _ _ => orderKey_injective⟩

/-- Offsets are compared position by position. -/
theorem compare_eq (a b : Offset) : Offset.compare a b = Ord.compare (α := List Nat) a b := by
  have hposition (i j : Nat) : Ord.compare i j = (OrderKey.int i).compare (.int j) := by
    rw [OrderKey.compare, compare_natCast]
  exact (OrderKey.compareAll_map hposition a b).symm

end Offset

theorem Extractor.orderedByKey :
    OrderedByKey (compare : Extractor → Extractor → Ordering) orderKey where
  injective _ _ := orderKey_injective
  cmp_eq x y := by
    show x.cmp y = _
    cases x <;> cases y
    case metadata.metadata k m => cases k <;> cases m <;> rfl
    case type.type t u =>
      rw [cmp, orderKey, orderKey, OrderKey.compare_tagged, DataType.orderedByKey.cmp_eq]
    case field.field a b => rw [cmp, orderKey, orderKey, OrderKey.compare_tagged, OrderKey.compare]
    case data.data s o u p =>
      rw [cmp, Schema.orderedByKey.cmp_eq, Offset.orderedByKey.cmp_eq]
      simp [orderKey, OrderKey.compare, OrderKey.compareAll]
    all_goals rfl

theorem Operand.orderedByKey : OrderedByKey (compare : Operand → Operand → Ordering) orderKey where
  injective _ _ := orderKey_injective
  cmp_eq a b := by
    show a.cmp b = _
    cases a <;> cases b
    case extractor.extractor x y =>
      rw [cmp, orderKey, orderKey, OrderKey.compare_tagged, Extractor.orderedByKey.cmp_eq]
    case literal.literal d e =>
      rw [cmp, orderKey, orderKey, OrderKey.compare_tagged, Data.orderedByKey.cmp_eq]
    all_goals rfl

theorem Predicate.orderedByKey :
    OrderedByKey (compare : Predicate → Predicate → Ordering) orderKey where
  injective _ _ := orderKey_injective
  cmp_eq p q := by
    show p.cmp q = _
    rw [cmp, Operand.orderedByKey.cmp_eq, Operand.orderedByKey.cmp_eq, ← compare_natCast,
      Ordering.then_assoc]
    simp [orderKey, OrderKey.compare, OrderKey.compareAll]

instance : Std.TransOrd Predicate := Predicate.orderedByKey.transCmp

instance : Std.LawfulEqOrd Predicate := Predicate.orderedByKey.lawfulEqCmp

/-- The structural orders are total, also on nested values and on NaNs. They answer `eq` on identical
values only, where doubles go by their bits, patterns by source and case flag, and schemas by their
types; that a schema is known to be the same one does not change the answer. -/
theorem structural_orders_are_lawful :
    IsLawfulOrder (compare : Data → Data → Ordering) ∧
    IsLawfulOrder (compare : DataType → DataType → Ordering) ∧
    IsLawfulOrder (compare : Schema → Schema → Ordering) ∧
    IsLawfulOrder Offset.compare ∧
    IsLawfulOrder (compare : Operand → Operand → Ordering) ∧
    IsLawfulOrder (compare : Predicate → Predicate → Ordering) ∧
    (∀ x y : Double, compare (Data.double x) (.double y) = .eq ↔ x.bits = y.bits) ∧
    (∀ p q : Pattern, compare (Data.pattern p) (.pattern q) = .eq ↔
      p.source = q.source ∧ p.ignoreCase = q.ignoreCase) ∧
    (∀ s u : Schema, compare s u = .eq ↔ s.toType = u.toType) ∧
    (∀ (shared : Bool) (s : Schema), s.cmp shared s = compare s s) := by
  have htype := DataType.orderedByKey.isLawfulOrder
  refine ⟨Data.orderedByKey.isLawfulOrder, htype, Schema.orderedByKey.isLawfulOrder,
    Offset.orderedByKey.isLawfulOrder, Operand.orderedByKey.isLawfulOrder,
    Predicate.orderedByKey.isLawfulOrder, Data.compare_double_eq_iff, Pattern.compare_eq_iff,
    fun s u => htype.eq_iff s.toType u.toType, fun shared s => ?_⟩
  have hself : compare s.toType s.toType = .eq := (htype.eq_iff _ _).mpr rfl
  have hcompare : compare s s = .eq := hself
  cases shared with
  | false => rfl
  | true => exact hcompare.symm

/-- By value a NaN equals nothing; in the structural order it has its place, within lists too. -/
example : compare (Data.list [.double ⟨0x7ff8000000000000⟩]) (.list [.double ⟨0x7ff8000000000000⟩]) =
    .eq := by
  decide +kernel

end EventFilter
