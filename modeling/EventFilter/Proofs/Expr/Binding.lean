import EventFilter.Proofs.Expr.Resolution
import EventFilter.Proofs.Expr.Siblings

/-! Expressions that are bound to a schema. A valid expression in normal form that names no column by
its offset resolves against every schema, and what it resolves to is bound to that schema: its
predicates read literals, metadata and suitable leaves, and resolution leaves it as it is. -/

namespace EventFilter

def Operand.isColumn : Operand → Bool
  | .extractor (.data _ _) => true
  | _ => false

namespace Predicate

/-- Neither operand is a column of a schema. -/
def IsUnbound (p : Predicate) : Prop := p.lhs.isColumn = false ∧ p.rhs.isColumn = false

instance (p : Predicate) : Decidable p.IsUnbound := inferInstanceAs (Decidable (_ ∧ _))

/-- A literal to the right of a literal, of metadata or of a leaf of the schema, whose type admits the
comparison. -/
def IsBoundTo (s : Schema) (p : Predicate) : Prop :=
  match p.lhs, p.rhs with
  | .literal _, .literal _ => True
  | .extractor (.metadata _), .literal _ => True
  | .extractor (.data bound o), .literal d =>
    bound = s ∧ ∃ leaf ∈ s.leaves, leaf.offset = o ∧ leaf.type.compatible p.op d
  | _, _ => False

/-- A predicate that is valid, names no column and has a lone literal on its right. -/
structure IsBindable (p : Predicate) : Prop where
  valid : p.validate = .ok ()
  unbound : p.IsUnbound
  aligned : ¬ (p.lhs.isExtractor = false ∧ p.rhs.isExtractor = true)

variable {s : Schema} {p q : Predicate} {r : Expr}

theorem isUnbound_negated (h : p.IsUnbound) : p.negated.IsUnbound := h

theorem isUnbound_aligned (h : p.IsUnbound) : p.aligned.IsUnbound := by
  obtain ⟨l, op, r⟩ := p
  cases l <;> cases r
  case literal.extractor => exact ⟨h.2, h.1⟩
  all_goals exact h

theorem isBoundTo_onLeaf {leaf : Leaf} {y : Extractor} {op : Operator} {d : Data}
    (h : leaf ∈ y.candidates s op d) :
    IsBoundTo s ⟨.extractor (.data s leaf.offset), op, .literal d⟩ := by
  rw [Extractor.candidates_eq_filter, List.mem_filter] at h
  exact ⟨rfl, leaf, Extractor.mem_leaves_of_mem_named h.1, rfl, h.2⟩

theorem IsBindable.exists_bound (h : p.IsBindable) (s : Schema) :
    ∃ r, p.resolve s = .ok r ∧ ∀ q ∈ r.leaves, q.IsBoundTo s := by
  obtain ⟨hvalid, hunbound, haligned⟩ := h
  obtain ⟨lhs, op, rhs⟩ := p
  have hkept : IsBoundTo s ⟨lhs, op, rhs⟩ →
      ∀ q ∈ (Expr.predicate ⟨lhs, op, rhs⟩).leaves, q.IsBoundTo s := by
    intro hbound q hq
    obtain rfl : q = ⟨lhs, op, rhs⟩ := by simpa [Expr.leaves] using hq
    exact hbound
  have hexpanded : ∀ (y : Extractor) (d : Data),
      ∀ q ∈ (Expr.join (expansion op) ((y.candidates s op d).map (onLeaf s op d))).leaves,
        q.IsBoundTo s := by
    intro y d q hq
    rw [Expr.leaves_join] at hq
    obtain ⟨x, hx, hqx⟩ := List.mem_flatMap.mp hq
    obtain ⟨leaf, hleaf, rfl⟩ := List.mem_map.mp hx
    obtain rfl : q = ⟨.extractor (.data s leaf.offset), op, .literal d⟩ := by
      simpa [onLeaf, Expr.leaves] using hqx
    exact isBoundTo_onLeaf hleaf
  cases rhs with
  | extractor y =>
    cases lhs with
    | extractor x => simp [validate, form] at hvalid
    | literal a => exact absurd ⟨rfl, rfl⟩ haligned
  | literal d =>
    cases lhs with
    | literal a => exact ⟨_, rfl, hkept trivial⟩
    | extractor x =>
      cases x with
      | metadata key => exact ⟨_, rfl, hkept trivial⟩
      | type t => exact ⟨_, rfl, hexpanded (.type t) d⟩
      | field name => exact ⟨_, rfl, hexpanded (.field name) d⟩
      | data bound o => simp [IsUnbound, Operand.isColumn] at hunbound

end Predicate

namespace Expr

variable {s : Schema} {c : Connective} {e r : Expr} {es rs : List Expr}

theorem exists_resolveAll (h : ∀ e ∈ es, ∃ r, e.resolve s = .ok r) :
    ∃ rs, resolveAll s es = .ok rs := by
  induction es with
  | nil => exact ⟨[], rfl⟩
  | cons e rest ih =>
    obtain ⟨r, hr⟩ := h e (by simp)
    obtain ⟨rs, hrs⟩ := ih fun f hf => h f (List.mem_cons_of_mem _ hf)
    exact ⟨if r.isEmpty then rs else r :: rs, by simp only [resolveAll, hr, hrs]⟩

theorem exists_bound_of_leaves (h : ∀ p ∈ e.leaves, p.IsBindable) :
    ∃ r, e.resolve s = .ok r ∧ ∀ q ∈ r.leaves, q.IsBoundTo s := by
  induction e with
  | empty => exact ⟨empty, rfl, by simp [leaves]⟩
  | group c children ih =>
    have hchild : ∀ e ∈ children, ∃ r, e.resolve s = .ok r ∧ ∀ q ∈ r.leaves, q.IsBoundTo s :=
      fun e he => ih e he fun p hp => h p (mem_leaves_group.mpr ⟨e, he, hp⟩)
    obtain ⟨rs, hrs⟩ := exists_resolveAll fun e he => (hchild e he).imp fun _ hr => hr.1
    refine ⟨join c rs, by simp only [resolve, hrs], fun q hq => ?_⟩
    rw [leaves_join] at hq
    obtain ⟨r, hr, hq⟩ := List.mem_flatMap.mp hq
    obtain ⟨-, e, he, hres⟩ := ne_empty_of_mem_resolveAll hrs hr
    obtain ⟨r', hres', hbound⟩ := hchild e he
    obtain rfl : r' = r := Except.ok.inj (hres'.symm.trans hres)
    exact hbound q hq
  | negation child ih =>
    obtain ⟨r, hr, hbound⟩ := ih h
    by_cases hempty : r = empty
    · exact ⟨empty, by simp [resolve, hr, hempty], by simp [leaves]⟩
    · refine ⟨negation r, ?_, hbound⟩
      simp only [resolve, hr]
  | predicate p => exact (h p (by simp [leaves])).exists_bound s

/-! ### What resolution builds -/

theorem resolveAll_eq_self (h : ∀ r ∈ rs, r ≠ empty ∧ r.resolve s = .ok r) :
    resolveAll s rs = .ok rs := by
  induction rs with
  | nil => rfl
  | cons r rest ih =>
    obtain ⟨hne, hr⟩ := h r (by simp)
    have hrest := ih fun q hq => h q (List.mem_cons_of_mem _ hq)
    have hkept : r.isEmpty = false := by
      rw [← Bool.not_eq_true, isEmpty_iff]
      exact hne
    simp [resolveAll, hr, hrest, hkept]

/-- A resolved expression is built by joins and negations, of parts that are not empty, from predicates
that resolution leaves as they are. -/
theorem resolve_induction {motive : Expr → Prop}
    (predicate : ∀ p, p.resolve s = .ok (.predicate p) → motive (.predicate p))
    (join : ∀ c rs, (∀ r ∈ rs, r ≠ empty ∧ motive r) → motive (join c rs))
    (negation : ∀ r, r ≠ empty → motive r → motive (negation r))
    (h : e.resolve s = .ok r) : motive r := by
  induction e generalizing r with
  | empty =>
    obtain rfl : empty = r := Except.ok.inj h
    exact join .all [] (by simp)
  | group c children ih =>
    obtain ⟨rs, hrs, rfl⟩ := resolve_group_eq_ok h
    refine join c rs fun r hr => ?_
    obtain ⟨hne, e, he, hres⟩ := ne_empty_of_mem_resolveAll hrs hr
    exact ⟨hne, ih e he hres⟩
  | negation child ih =>
    cases hchild : child.resolve s with
    | error err => simp [resolve, hchild] at h
    | ok q =>
      by_cases hempty : q = empty
      · obtain rfl : empty = r := by simpa [resolve, hchild, hempty] using h
        exact join .all [] (by simp)
      · have hr : r = .negation q := by
          simp only [resolve, hchild] at h
          cases h
          rfl
        exact hr ▸ negation q hempty (ih hchild)
  | predicate p =>
    have hsingle : r = .predicate p → motive r := by
      rintro rfl
      exact predicate p h
    have hexpansion : ∀ (y : Extractor) (op : Operator) (d : Data),
        r = Expr.join (Predicate.expansion op) ((y.candidates s op d).map
          (Predicate.onLeaf s op d)) → motive r := by
      rintro y op d rfl
      refine join _ _ fun x hx => ?_
      obtain ⟨leaf, -, rfl⟩ := List.mem_map.mp hx
      refine ⟨by simp [Predicate.onLeaf], predicate _ ?_⟩
      simp [Predicate.resolve, Predicate.form]
    simp only [resolve] at h
    unfold Predicate.resolve at h
    split at h
    · exact hsingle (Except.ok.inj h).symm
    · cases h
    · exact hsingle (Except.ok.inj h).symm
    · split at h
      · exact hsingle (Except.ok.inj h).symm
      · cases h
    · exact hexpansion _ _ _ (Except.ok.inj h).symm

theorem resolve_join_eq_self (h : ∀ r ∈ rs, r ≠ empty ∧ r.resolve s = .ok r) :
    (join c rs).resolve s = .ok (join c rs) := by
  match rs with
  | [] => rfl
  | [r] => exact (h r (by simp)).2
  | _ :: _ :: _ => simp only [join, resolve, resolveAll_eq_self h]

/-- To resolve again changes nothing. -/
theorem resolve_resolve (h : e.resolve s = .ok r) : r.resolve s = .ok r := by
  refine resolve_induction (motive := fun r => r.resolve s = .ok r) ?_ ?_ ?_ h
  · intro p hp
    exact hp
  · intro c rs hrs
    exact resolve_join_eq_self hrs
  · intro r _ hr
    simp only [resolve, hr]

theorem isProper_resolve (h : e.resolve s = .ok r) : r = empty ∨ r.IsProper := by
  refine resolve_induction (motive := fun r => r = empty ∨ r.IsProper) ?_ ?_ ?_ h
  · intro p _
    exact .inr (isProper_predicate p)
  · intro c rs hrs
    by_cases hnil : rs = []
    · exact .inl (by rw [hnil, join])
    · exact .inr (isProper_join hnil fun r hr => (hrs r hr).2.resolve_left (hrs r hr).1)
  · intro r hne hr
    exact .inr (isProper_negation.mpr (hr.resolve_left hne))

/-- No group has fewer than two children. -/
def IsBranching (e : Expr) : Prop := e.EveryGroup fun _ es => 2 ≤ es.length

theorem isBranching_resolve (h : e.resolve s = .ok r) : r.IsBranching := by
  refine resolve_induction (motive := IsBranching) ?_ ?_ ?_ h
  · intro p _
    exact everyGroup_predicate p
  · intro c rs hrs
    exact everyGroup_join (fun r hr => (hrs r hr).2) id
  · intro r _ hr
    exact everyGroup_negation.mpr hr

/-- What resolution makes of an expression for a schema. -/
structure IsBound (s : Schema) (e : Expr) : Prop where
  leaves : ∀ p ∈ e.leaves, p.IsBoundTo s
  proper : e = empty ∨ e.IsProper
  branching : e.IsBranching
  stable : e.resolve s = .ok e

theorem exists_isBound (h : ∀ p ∈ e.leaves, p.IsBindable) (s : Schema) :
    ∃ r, e.resolve s = .ok r ∧ r.IsBound s := by
  obtain ⟨r, hr, hleaves⟩ := exists_bound_of_leaves (s := s) h
  exact ⟨r, hr, hleaves, isProper_resolve hr, isBranching_resolve hr, resolve_resolve hr⟩

end Expr

end EventFilter
