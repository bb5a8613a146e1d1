import EventFilter.Expr.Normalize
import EventFilter.Proofs.Expr.Structure
import EventFilter.Proofs.Order.Structural
import Mathlib.Data.List.Sort

/-! The list of the predicates of an expression. Merging keeps ascending lists ascending and their
predicates together, so that the list holds the leaves in the order of predicates, each once, and
only the set of the leaves matters. -/

namespace EventFilter.Expr

variable {e f : Expr} {p q r : Predicate} {ps qs : List Predicate}

/-- Each predicate comes before all that follow it, so that none is there twice. -/
def Ascending (ps : List Predicate) : Prop := ps.Pairwise fun p q => compare p q = .lt

/-! ### Merging -/

theorem mem_mergePredicates (ps qs : List Predicate) :
    r ∈ mergePredicates ps qs ↔ r ∈ ps ∨ r ∈ qs := by
  fun_induction mergePredicates ps qs with
  | case1 qs => simp
  | case2 ps => simp
  | case3 p ps q qs _ ih => simp only [List.mem_cons, ih, or_assoc]
  | case4 p ps q qs _ ih => simp only [List.mem_cons, ih, or_left_comm]
  | case5 p ps q qs h ih =>
    obtain rfl : p = q := Std.LawfulEqOrd.eq_of_compare h
    simp only [List.mem_cons, ih]
    tauto

theorem Ascending.lt_of_lt_head (h : Ascending (q :: qs)) (hp : compare p q = .lt)
    (hr : r ∈ q :: qs) : compare p r = .lt := by
  rcases List.mem_cons.mp hr with rfl | hr
  · exact hp
  · exact Std.TransCmp.lt_trans hp ((List.pairwise_cons.mp h).1 r hr)

theorem ascending_mergePredicates (hps : Ascending ps) (hqs : Ascending qs) :
    Ascending (mergePredicates ps qs) := by
  fun_induction mergePredicates ps qs with
  | case1 qs => exact hqs
  | case2 ps => exact hps
  -- Whichever head goes first is before the rest of its own list, and before the other head.
  | case3 p ps q qs h ih =>
    obtain ⟨hp, htail⟩ := List.pairwise_cons.mp hps
    refine List.pairwise_cons.mpr ⟨fun r hr => ?_, ih htail hqs⟩
    rcases (mem_mergePredicates ps (q :: qs)).mp hr with hr | hr
    · exact hp r hr
    · exact hqs.lt_of_lt_head h hr
  | case4 p ps q qs h ih =>
    obtain ⟨hq, htail⟩ := List.pairwise_cons.mp hqs
    have hqp : compare q p = .lt := Std.OrientedCmp.lt_of_gt h
    refine List.pairwise_cons.mpr ⟨fun r hr => ?_, ih hps htail⟩
    rcases (mem_mergePredicates (p :: ps) qs).mp hr with hr | hr
    · exact hps.lt_of_lt_head hqp hr
    · exact hq r hr
  | case5 p ps q qs h ih =>
    obtain ⟨hp, hptail⟩ := List.pairwise_cons.mp hps
    obtain ⟨hq, hqtail⟩ := List.pairwise_cons.mp hqs
    obtain rfl : p = q := Std.LawfulEqOrd.eq_of_compare h
    refine List.pairwise_cons.mpr ⟨fun r hr => ?_, ih hptail hqtail⟩
    rcases (mem_mergePredicates ps qs).mp hr with hr | hr
    · exact hp r hr
    · exact hq r hr

instance : Std.Irrefl fun p q : Predicate => compare p q = .lt :=
  ⟨fun p h => by simp [Std.compare_self] at h⟩

instance : Std.Antisymm fun p q : Predicate => compare p q = .lt :=
  ⟨fun p q hpq hqp => by simp [Std.OrientedCmp.gt_of_lt hpq] at hqp⟩

/-! ### The predicates of an expression -/

theorem mem_predicatesWith (found : List Predicate) (es : List Expr) :
    p ∈ predicatesWith found es ↔ p ∈ found ∨ ∃ e ∈ es, p ∈ e.predicates := by
  induction es generalizing found with
  | nil => simp [predicatesWith]
  | cons e rest ih =>
    simp only [predicatesWith, ih, mem_mergePredicates, List.exists_mem_cons_iff, or_assoc]

theorem ascending_predicatesWith {found : List Predicate} {es : List Expr}
    (hfound : Ascending found) (h : ∀ e ∈ es, Ascending e.predicates) :
    Ascending (predicatesWith found es) := by
  induction es generalizing found with
  | nil => exact hfound
  | cons e rest ih =>
    have he : Ascending e.predicates := h e (by simp)
    exact ih (ascending_mergePredicates hfound he) fun f hf => h f (List.mem_cons_of_mem _ hf)

theorem mem_predicates (e : Expr) : p ∈ e.predicates ↔ p ∈ e.leaves := by
  induction e with
  | empty => exact Iff.rfl
  | group c children ih =>
    have hchildren : (∃ e ∈ children, p ∈ e.predicates) ↔ ∃ e ∈ children, p ∈ e.leaves :=
      exists_congr fun e => and_congr_right (ih e)
    rw [predicates, mem_predicatesWith, mem_leaves_group, ← hchildren]
    simp
  | negation child ih => exact ih
  | predicate q => exact Iff.rfl

theorem ascending_predicates (e : Expr) : Ascending e.predicates := by
  induction e with
  | empty => exact .nil
  | group c children ih => exact ascending_predicatesWith .nil ih
  | negation child ih => exact ih
  | predicate q => exact List.pairwise_singleton _ q

theorem predicates_eq_iff : f.predicates = e.predicates ↔ ∀ p, p ∈ f.leaves ↔ p ∈ e.leaves := by
  constructor
  · intro h p
    rw [← mem_predicates, ← mem_predicates, h]
  · intro h
    apply List.Pairwise.eq_of_mem_iff (ascending_predicates f) (ascending_predicates e)
    intro p
    rw [mem_predicates, mem_predicates, h]

/-! ### Other arrangements -/

/-- The same predicates in another arrangement: children reordered, regrouped or repeated, anywhere
in the tree. -/
inductive Rearranged : Expr → Expr → Prop
  | refl (e : Expr) : Rearranged e e
  | symm {e f : Expr} (h : Rearranged e f) : Rearranged f e
  | trans {e f g : Expr} (h : Rearranged e f) (h' : Rearranged f g) : Rearranged e g
  | reordered {c : Connective} {es fs : List Expr} (h : es.Perm fs) :
      Rearranged (group c es) (group c fs)
  | regrouped (c d : Connective) (before inner after : List Expr) :
      Rearranged (group c (before ++ group d inner :: after)) (group c (before ++ inner ++ after))
  | single (c : Connective) (e : Expr) : Rearranged (group c [e]) e
  | repeated {c : Connective} {e : Expr} {es : List Expr} (h : e ∈ es) :
      Rearranged (group c es) (group c (e :: es))
  | child (c : Connective) (before after : List Expr) {e f : Expr} (h : Rearranged e f) :
      Rearranged (group c (before ++ e :: after)) (group c (before ++ f :: after))
  | negation {e f : Expr} (h : Rearranged e f) : Rearranged (negation e) (negation f)

theorem Rearranged.mem_leaves_iff (h : Rearranged e f) (p : Predicate) :
    p ∈ f.leaves ↔ p ∈ e.leaves := by
  induction h with
  | refl e => exact Iff.rfl
  | symm _ ih => exact ih.symm
  | trans _ _ ih ih' => exact ih'.trans ih
  | reordered h => simp only [mem_leaves_group, h.mem_iff]
  | regrouped c d before inner after =>
    simp only [mem_leaves_group, List.mem_append, List.mem_cons, or_and_right, exists_or,
      exists_eq_left, or_assoc]
  | single c e => simp [mem_leaves_group]
  | repeated h =>
    simp only [mem_leaves_group, List.exists_mem_cons_iff, or_iff_right_iff_imp]
    exact fun hp => ⟨_, h, hp⟩
  | child c before after _ ih =>
    simp only [mem_leaves_group, List.mem_append, List.mem_cons, or_and_right, exists_or,
      exists_eq_left, ih]
  | negation _ ih => exact ih

/-- The predicates of an expression are its leaves in ascending order, each once. They depend on the
set of the leaves alone, so that the arrangement of the expression is of no account. Doubles count by
their bits, patterns by source and case flag. -/
theorem predicates_are_ordered_set_of_leaves (e : Expr) :
    (e.predicates.Pairwise fun p q => compare p q = .lt) ∧
    (∀ p, e.predicates.count p = if p ∈ e.leaves then 1 else 0) ∧
    (∀ f : Expr, f.predicates = e.predicates ↔ ∀ p, p ∈ f.leaves ↔ p ∈ e.leaves) ∧
    (∀ f : Expr, Rearranged e f → f.predicates = e.predicates) ∧
    (∀ x y : Double, Data.double x = .double y ↔ x.bits = y.bits) ∧
    (∀ p q : Pattern, Data.pattern p = .pattern q ↔
      p.source = q.source ∧ p.ignoreCase = q.ignoreCase) := by
  have hnodup : e.predicates.Nodup := List.Pairwise.nodup (ascending_predicates e)
  have hdata := Data.orderedByKey.isLawfulOrder
  refine ⟨ascending_predicates e, fun p => ?_, fun f => predicates_eq_iff,
    fun f h => predicates_eq_iff.mpr h.mem_leaves_iff, fun x y => ?_, fun p q => ?_⟩
  · rw [hnodup.count]
    simp only [mem_predicates]
  · rw [← hdata.eq_iff, Data.compare_double_eq_iff]
  · rw [← hdata.eq_iff]
    exact Pattern.compare_eq_iff p q

theorem nan_test_is_listed_once_in_both_arrangements :
    let nan : Data := .list [.double ⟨0x7ff8000000000000⟩]
    let p : Predicate := ⟨.extractor (.field "a"), .equal, .literal nan⟩
    let q : Predicate := ⟨.extractor (.field "b"), .less, .literal (.int64 1)⟩
    let nested := group .all [predicate q, group .any [predicate p, predicate q]]
    let flat := group .all [predicate p, predicate q]
    Rearranged nested flat ∧ nested.predicates = flat.predicates ∧ flat.predicates = [p, q] := by
  intro nan p q nested flat
  have hregrouped : Rearranged nested (group .all [predicate q, predicate p, predicate q]) :=
    .regrouped .all .any [predicate q] [predicate p, predicate q] []
  have hrepeated : Rearranged flat (group .all [predicate q, predicate p, predicate q]) :=
    .repeated (by simp)
  have hflat : Rearranged nested flat := hregrouped.trans hrepeated.symm
  have hlt : compare p q = .lt := by decide +kernel
  obtain ⟨-, -, -, hsame, -⟩ := predicates_are_ordered_set_of_leaves nested
  refine ⟨hflat, (hsame flat hflat).symm, ?_⟩
  simp [flat, predicates, predicatesWith, mergePredicates, hlt]

end EventFilter.Expr
