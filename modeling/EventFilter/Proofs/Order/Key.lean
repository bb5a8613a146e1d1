import EventFilter.Order.Key

/-! Orders by key. A comparison that is the one of keys, and gives different values different keys, is
a lawful total order whatever the values are. -/

namespace EventFilter

/-- A total order that answers `eq` on identical values only, together with its `==`. -/
structure IsLawfulOrder {α : Type} [BEq α] (cmp : α → α → Ordering) : Prop where
  total (a b : α) : (cmp a b).isLE ∨ (cmp b a).isLE
  trans (a b c : α) : (cmp a b).isLE → (cmp b c).isLE → (cmp a c).isLE
  antisymm (a b : α) : (cmp a b).isLE → (cmp b a).isLE → a = b
  swap (a b : α) : cmp b a = (cmp a b).swap
  eq_iff (a b : α) : cmp a b = .eq ↔ a = b
  beq_iff (a b : α) : a == b ↔ cmp a b = .eq
  equivalence : Equivalence fun a b : α => a == b

namespace OrderKey

variable {α : Type} [Ord α] {key : α → OrderKey}

instance : Std.TransCmp OrderKey.compare where
  eq_swap {a b} := compare_swap b a
  isLE_trans {a b c} hab hbc := by
    rw [Ordering.isLE_iff_eq_lt_or_eq_eq] at *
    rcases hab with hab | hab
    · rcases hbc with hbc | hbc
      · exact .inl (compare_lt_trans a b c hab hbc)
      · have hbc' : b = c := (compare_eq_iff b c).mp hbc
        exact .inl (hbc' ▸ hab)
    · have hab' : a = b := (compare_eq_iff a b).mp hab
      rwa [hab']

instance : Std.LawfulEqCmp OrderKey.compare where
  compare_self {a} := (compare_eq_iff a a).mpr rfl
  eq_of_compare {a b} := (compare_eq_iff a b).mp

theorem compare_pair (x y u v : OrderKey) :
    (tuple [x, y]).compare (tuple [u, v]) = (x.compare u).then (y.compare v) := by
  simp [compare, compareAll]

/-- Behind a common tag the rest decides. -/
theorem compare_tagged (n : Int) (x y : OrderKey) :
    (tuple [.int n, x]).compare (tuple [.int n, y]) = x.compare y := by
  simp [compare, compareAll]

theorem compareAll_map (h : ∀ a b, Ord.compare a b = (key a).compare (key b)) (as bs : List α) :
    Ord.compare as bs = compareAll (as.map key) (bs.map key) := by
  induction as generalizing bs with
  | nil => cases bs <;> rfl
  | cons a as ih =>
    cases bs with
    | nil => rfl
    | cons b bs =>
      rw [List.compare_cons_cons, h a b, ih bs]
      rfl

theorem compare_option (h : ∀ a b, Ord.compare a b = (key a).compare (key b)) (x y : Option α) :
    Ord.compare x y = (option key x).compare (option key y) := by
  cases x <;> cases y
  case some.some a b =>
    have hab : Ord.compare (some a) (some b) = (key a).compare (key b) := h a b
    simp [option, compare, compareAll, hab]
  all_goals rfl

end OrderKey

/-- A comparison that is the one of keys, which tell all values apart. -/
structure OrderedByKey {α : Type} (cmp : α → α → Ordering) (key : α → OrderKey) : Prop where
  cmp_eq (a b : α) : cmp a b = (key a).compare (key b)
  injective (a b : α) : key a = key b → a = b

namespace OrderedByKey

variable {α : Type} {cmp : α → α → Ordering} {key : α → OrderKey}

theorem transCmp (h : OrderedByKey cmp key) : Std.TransCmp cmp where
  eq_swap {a b} := by
    rw [h.cmp_eq, h.cmp_eq]
    exact Std.OrientedCmp.eq_swap
  isLE_trans {a b c} hab hbc := by
    rw [h.cmp_eq] at *
    exact Std.TransCmp.isLE_trans hab hbc

theorem lawfulEqCmp (h : OrderedByKey cmp key) : Std.LawfulEqCmp cmp where
  compare_self {a} := by
    rw [h.cmp_eq]
    exact Std.ReflCmp.compare_self
  eq_of_compare {a b} hab := by
    rw [h.cmp_eq] at hab
    exact h.injective a b (Std.LawfulEqCmp.eq_of_compare hab)

theorem isLawfulOrder [BEq α] [LawfulBEq α] (h : OrderedByKey cmp key) : IsLawfulOrder cmp := by
  have htrans : Std.TransCmp cmp := h.transCmp
  have hlawful : Std.LawfulEqCmp cmp := h.lawfulEqCmp
  have hswap (a b : α) : cmp b a = (cmp a b).swap := Std.OrientedCmp.eq_swap
  have heq (a b : α) : cmp a b = .eq ↔ a = b := Std.LawfulEqCmp.compare_eq_iff_eq
  refine
    { total := fun a b => ?_
      trans := fun a b c => Std.TransCmp.isLE_trans
      antisymm := fun a b hab hba => (heq a b).mp (Std.OrientedCmp.isLE_antisymm hab hba)
      swap := hswap
      eq_iff := heq
      beq_iff := fun a b => beq_iff_eq.trans (heq a b).symm
      equivalence := ⟨fun a => ?_, fun hab => ?_, fun hab hbc => ?_⟩ }
  · rw [hswap a b]
    cases cmp a b <;> simp
  · exact beq_self_eq_true a
  · exact BEq.symm hab
  · exact BEq.trans hab hbc

end OrderedByKey

end EventFilter
