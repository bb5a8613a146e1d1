import EventFilter.Expr.Basic

/-! Induction over expressions, and properties that hold at every node of one. -/

namespace EventFilter.Expr

@[induction_eliminator]
theorem ind {motive : Expr → Prop} (empty : motive .empty)
    (group : ∀ c children, (∀ e ∈ children, motive e) → motive (.group c children))
    (negation : ∀ child, motive child → motive (.negation child))
    (predicate : ∀ p, motive (.predicate p)) (e : Expr) : motive e :=
  @Expr.rec motive (fun es => ∀ e ∈ es, motive e) empty group negation predicate
    (fun _ h => nomatch h)
    (fun _ _ ihHead ihTail e he => by
      rcases List.mem_cons.mp he with rfl | he
      · exact ihHead
      · exact ihTail e he)
    e

mutual

/-- The expression and everything below it. -/
def nodes : Expr → List Expr
  | empty => [empty]
  | group c children => group c children :: nodesAll children
  | negation child => negation child :: child.nodes
  | predicate p => [predicate p]

def nodesAll : List Expr → List Expr
  | [] => []
  | e :: rest => e.nodes ++ nodesAll rest

end

theorem nodesAll_eq_flatMap (es : List Expr) : nodesAll es = es.flatMap nodes := by
  induction es with
  | nil => rfl
  | cons e rest ih => simp [nodesAll, ih]

theorem leavesAll_eq_flatMap (es : List Expr) : leavesAll es = es.flatMap leaves := by
  induction es with
  | nil => rfl
  | cons e rest ih => simp [leavesAll, ih]

theorem mem_leaves_group {c : Connective} {es : List Expr} {p : Predicate} :
    p ∈ (group c es).leaves ↔ ∃ e ∈ es, p ∈ e.leaves := by
  simp [leaves, leavesAll_eq_flatMap]

theorem leaves_join (c : Connective) (es : List Expr) : (join c es).leaves = es.flatMap leaves := by
  match es with
  | [] => rfl
  | [e] => simp [join]
  | e :: f :: rest => simp [join, leaves, leavesAll_eq_flatMap]

mutual

/-- The predicates, each with whether it stands under an odd number of negations. -/
def signedLeaves (negate : Bool) : Expr → List (Bool × Predicate)
  | empty => []
  | group _ children => signedLeavesAll negate children
  | negation child => child.signedLeaves !negate
  | predicate p => [(negate, p)]

def signedLeavesAll (negate : Bool) : List Expr → List (Bool × Predicate)
  | [] => []
  | e :: rest => e.signedLeaves negate ++ signedLeavesAll negate rest

end

theorem mem_signedLeaves_group {c : Connective} {es : List Expr} {negate : Bool}
    {l : Bool × Predicate} :
    l ∈ (group c es).signedLeaves negate ↔ ∃ e ∈ es, l ∈ e.signedLeaves negate := by
  rw [signedLeaves]
  induction es with
  | nil => simp [signedLeavesAll]
  | cons e rest ih => simp [signedLeavesAll, ih]

theorem mem_leaves_of_mem_signedLeaves {e : Expr} {negate b : Bool} {p : Predicate}
    (h : (b, p) ∈ e.signedLeaves negate) : p ∈ e.leaves := by
  induction e generalizing negate with
  | empty => simp [signedLeaves] at h
  | group c children ih =>
    obtain ⟨e, he, hmem⟩ := mem_signedLeaves_group.mp h
    exact mem_leaves_group.mpr ⟨e, he, ih e he hmem⟩
  | negation child ih => exact ih h
  | predicate q =>
    obtain ⟨-, rfl⟩ : b = negate ∧ p = q := by simpa [signedLeaves] using h
    simp [leaves]

/-- A property of nodes that holds throughout an expression. -/
def Everywhere (q : Expr → Prop) (e : Expr) : Prop := ∀ x ∈ e.nodes, q x

instance {q : Expr → Prop} [DecidablePred q] (e : Expr) : Decidable (e.Everywhere q) :=
  inferInstanceAs (Decidable (∀ x ∈ e.nodes, q x))

section

variable {q : Expr → Prop}

@[simp] theorem everywhere_empty : empty.Everywhere q ↔ q empty := by
  simp [Everywhere, nodes]

@[simp] theorem everywhere_predicate {p : Predicate} :
    (predicate p).Everywhere q ↔ q (predicate p) := by
  simp [Everywhere, nodes]

@[simp] theorem everywhere_negation {e : Expr} :
    (negation e).Everywhere q ↔ q (negation e) ∧ e.Everywhere q := by
  simp [Everywhere, nodes]

@[simp] theorem everywhere_group {c : Connective} {es : List Expr} :
    (group c es).Everywhere q ↔ q (group c es) ∧ ∀ e ∈ es, e.Everywhere q := by
  simp only [Everywhere, nodes, nodesAll_eq_flatMap, List.forall_mem_cons, List.mem_flatMap,
    forall_exists_index, and_imp]
  exact and_congr_right fun _ => ⟨fun h e he x hx => h x e he hx, fun h x e he hx => h e he x hx⟩

/-- A join is the empty expression, one of the given ones, or a group of at least two. -/
theorem everywhere_join {c : Connective} {es : List Expr} (h : ∀ e ∈ es, e.Everywhere q)
    (hempty : es = [] → q empty) (hgroup : 2 ≤ es.length → q (group c es)) :
    (join c es).Everywhere q := by
  match es with
  | [] => simpa [join] using hempty rfl
  | [e] => simpa [join] using h
  | e :: f :: rest => exact everywhere_group.mpr ⟨hgroup (by simp), h⟩

end

/-- Nothing to evaluate: the empty expression, and a group of no children. -/
def isHollow : Expr → Bool
  | empty => true
  | group _ [] => true
  | _ => false

def isNegation : Expr → Bool
  | negation _ => true
  | _ => false

/-- No empty expression and no group without children anywhere. -/
def IsProper (e : Expr) : Prop := e.Everywhere fun x => x.isHollow = false

/-- No group without children anywhere. -/
def IsInhabited (e : Expr) : Prop := e.Everywhere fun x => ∀ c, x ≠ group c []

/-- No negation anywhere. -/
def IsPositive (e : Expr) : Prop := e.Everywhere fun x => x.isNegation = false

instance (e : Expr) : Decidable e.IsProper := inferInstanceAs (Decidable (e.Everywhere _))

@[simp] theorem not_isProper_empty : ¬ empty.IsProper := by simp [IsProper, isHollow]

@[simp] theorem isProper_predicate (p : Predicate) : (predicate p).IsProper := by
  simp [IsProper, isHollow]

@[simp] theorem isProper_negation {e : Expr} : (negation e).IsProper ↔ e.IsProper := by
  simp [IsProper, isHollow]

@[simp] theorem isProper_group {c : Connective} {es : List Expr} :
    (group c es).IsProper ↔ es ≠ [] ∧ ∀ e ∈ es, e.IsProper := by
  cases es <;> simp [IsProper, isHollow]

theorem IsProper.ne_empty {e : Expr} (h : e.IsProper) : e ≠ empty := by
  rintro rfl
  exact not_isProper_empty h

theorem isProper_join {c : Connective} {es : List Expr} (hne : es ≠ [])
    (h : ∀ e ∈ es, e.IsProper) : (join c es).IsProper := by
  refine everywhere_join h (fun he => absurd he hne) fun _ => ?_
  cases es with
  | nil => exact absurd rfl hne
  | cons e rest => rfl

@[simp] theorem isPositive_empty : empty.IsPositive := by simp [IsPositive, isNegation]

@[simp] theorem isPositive_predicate (p : Predicate) : (predicate p).IsPositive := by
  simp [IsPositive, isNegation]

@[simp] theorem not_isPositive_negation {e : Expr} : ¬ (negation e).IsPositive := by
  simp [IsPositive, isNegation]

@[simp] theorem isPositive_group {c : Connective} {es : List Expr} :
    (group c es).IsPositive ↔ ∀ e ∈ es, e.IsPositive := by
  simp [IsPositive, isNegation]

theorem IsPositive.sign_eq {e : Expr} {negate b : Bool} {p : Predicate} (he : e.IsPositive)
    (h : (b, p) ∈ e.signedLeaves negate) : b = negate := by
  induction e with
  | empty => simp [signedLeaves] at h
  | group c children ih =>
    obtain ⟨e, hmem, h⟩ := mem_signedLeaves_group.mp h
    exact ih e hmem (isPositive_group.mp he e hmem) h
  | negation child _ => simp at he
  | predicate q =>
    simp only [signedLeaves, List.mem_singleton, Prod.mk.injEq] at h
    exact h.1

theorem isPositive_join {c : Connective} {es : List Expr} (h : ∀ e ∈ es, e.IsPositive) :
    (join c es).IsPositive :=
  everywhere_join h (fun _ => rfl) fun _ => rfl

theorem isInhabited_join {c : Connective} {es : List Expr} (h : ∀ e ∈ es, e.IsInhabited) :
    (join c es).IsInhabited := by
  refine everywhere_join h (fun _ => by simp) fun hlen d he => ?_
  cases es with
  | nil => simp at hlen
  | cons e rest => simp at he

end EventFilter.Expr
