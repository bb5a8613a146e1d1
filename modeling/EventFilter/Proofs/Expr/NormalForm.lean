import EventFilter.Expr.Normalize
import EventFilter.Expr.Validate
import EventFilter.Proofs.Expr.Structure

/-! What the passes of normalization keep of the shape of an expression. The normal form has no
negation and no group without children; it is proper if the expression is, or if it is valid. -/

namespace EventFilter.Expr

variable {c : Connective} {e : Expr} {es : List Expr}

theorem hoistAll_eq_flatMap (c : Connective) (es : List Expr) :
    hoistAll c es = es.flatMap fun e => splice c e.hoist := by
  induction es with
  | nil => rfl
  | cons e rest ih => simp [hoistAll, ih]

theorem denegateAll_eq_map (negate : Bool) (es : List Expr) :
    denegateAll negate es = es.map (denegate negate) := by
  induction es with
  | nil => rfl
  | cons e rest ih => simp [denegateAll, ih]

theorem alignAll_eq_map (es : List Expr) : alignAll es = es.map align := by
  induction es with
  | nil => rfl
  | cons e rest ih => simp [alignAll, ih]

theorem deduplicateAll_eq_map (es : List Expr) : deduplicateAll es = es.map deduplicate := by
  induction es with
  | nil => rfl
  | cons e rest ih => simp [deduplicateAll, ih]

/-- What pruning leaves of the children. -/
theorem pruneAll_eq_filter (es : List Expr) :
    pruneAll es = (es.map prune).filter fun e => !e.isEmpty := by
  induction es with
  | nil => rfl
  | cons e rest ih => cases he : e.prune <;> simp [pruneAll, he, ih, isEmpty]

theorem splice_group_self (c : Connective) (es : List Expr) : splice c (group c es) = es := by
  simp [splice]

theorem splice_of_ne (h : ∀ es, e ≠ group c es) : splice c e = [e] := by
  cases e with
  | group d es =>
    have hd : d ≠ c := by
      rintro rfl
      exact h es rfl
    simp [splice, hd]
  | _ => rfl

/-- An expression is spliced into its children or stays whole. -/
theorem splice_cases (c : Connective) (e : Expr) :
    (∃ es, e = group c es ∧ splice c e = es) ∨ splice c e = [e] := by
  by_cases h : ∃ es, e = group c es
  · obtain ⟨es, rfl⟩ := h
    exact .inl ⟨es, rfl, splice_group_self c es⟩
  · exact .inr (splice_of_ne fun es he => h ⟨es, he⟩)

theorem leaves_splice (c : Connective) (e : Expr) : (splice c e).flatMap leaves = e.leaves := by
  rcases splice_cases c e with ⟨es, rfl, hs⟩ | hs
  · rw [hs, leaves, leavesAll_eq_flatMap]
  · simp [hs]

theorem splice_ne_nil (h : e.IsProper) : splice c e ≠ [] := by
  rcases splice_cases c e with ⟨es, rfl, hs⟩ | hs
  · rw [hs]
    exact (isProper_group.mp h).1
  · simp [hs]

/-- What holds throughout an expression holds throughout everything spliced out of it. -/
theorem Everywhere.of_mem_splice {q : Expr → Prop} (h : e.Everywhere q) {x : Expr}
    (hx : x ∈ splice c e) : x.Everywhere q := by
  rcases splice_cases c e with ⟨es, rfl, hs⟩ | hs
  · exact (everywhere_group.mp h).2 x (hs ▸ hx)
  · rw [hs, List.mem_singleton] at hx
    exact hx ▸ h

theorem leaves_hoist (e : Expr) : e.hoist.leaves = e.leaves := by
  induction e with
  | empty => rfl
  | group c children ih =>
    simp only [hoist, leaves, leaves_join, hoistAll_eq_flatMap, leavesAll_eq_flatMap,
      List.flatMap_assoc, leaves_splice]
    rw [List.flatMap_def, List.flatMap_def, List.map_congr_left ih]
  | negation child ih => simpa [hoist, leaves] using ih
  | predicate p => rfl

theorem mem_leaves_denegate {negate : Bool} {p : Predicate} (h : p ∈ (e.denegate negate).leaves) :
    ∃ q ∈ e.leaves, p = q ∨ p = q.negated := by
  induction e generalizing negate with
  | empty => simp [denegate, leaves] at h
  | group c children ih =>
    simp only [denegate, denegateAll_eq_map, mem_leaves_group, List.mem_map] at h
    obtain ⟨_, ⟨e, he, rfl⟩, hp⟩ := h
    obtain ⟨q, hq, hpq⟩ := ih e he hp
    exact ⟨q, mem_leaves_group.mpr ⟨e, he, hq⟩, hpq⟩
  | negation child ih => exact ih h
  | predicate q =>
    have hp : p = if negate then q.negated else q := by simpa [denegate, leaves] using h
    refine ⟨q, by simp [leaves], ?_⟩
    cases negate with
    | true => exact .inr hp
    | false => exact .inl hp

theorem mem_leaves_align {p : Predicate} (h : p ∈ e.align.leaves) : ∃ q ∈ e.leaves, p = q.aligned := by
  induction e with
  | empty => simp [align, leaves] at h
  | group c children ih =>
    simp only [align, alignAll_eq_map, mem_leaves_group, List.mem_map] at h
    obtain ⟨_, ⟨e, he, rfl⟩, hp⟩ := h
    obtain ⟨q, hq, hpq⟩ := ih e he hp
    exact ⟨q, mem_leaves_group.mpr ⟨e, he, hq⟩, hpq⟩
  | negation child ih => exact ih h
  | predicate q => exact ⟨q, by simp [leaves], by simpa [align, leaves] using h⟩

theorem isProper_hoist (h : e.IsProper) : e.hoist.IsProper := by
  induction e with
  | empty => simp at h
  | group c children ih =>
    obtain ⟨hne, hc⟩ := isProper_group.mp h
    rw [hoist, hoistAll_eq_flatMap]
    refine isProper_join ?_ fun x hx => ?_
    · obtain ⟨e, he⟩ := List.exists_mem_of_ne_nil children hne
      intro hnil
      exact splice_ne_nil (ih e he (hc e he)) (List.flatMap_eq_nil_iff.mp hnil e he)
    · obtain ⟨e, he, hx⟩ := List.mem_flatMap.mp hx
      exact Everywhere.of_mem_splice (ih e he (hc e he)) hx
  | negation child ih => simpa [hoist] using ih (by simpa using h)
  | predicate p => exact h

theorem isPositive_hoist (h : e.IsPositive) : e.hoist.IsPositive := by
  induction e with
  | group c children ih =>
    rw [hoist, hoistAll_eq_flatMap]
    refine isPositive_join fun x hx => ?_
    obtain ⟨e, he, hx⟩ := List.mem_flatMap.mp hx
    exact Everywhere.of_mem_splice (ih e he (isPositive_group.mp h e he)) hx
  | negation child _ => simp at h
  | _ => exact h

theorem isProper_denegate (negate : Bool) (h : e.IsProper) : (e.denegate negate).IsProper := by
  induction e generalizing negate with
  | empty => simp at h
  | group c children ih =>
    obtain ⟨hne, hc⟩ := isProper_group.mp h
    simp only [denegate, denegateAll_eq_map, isProper_group, ne_eq, List.map_eq_nil_iff,
      List.forall_mem_map]
    exact ⟨hne, fun e he => ih e he negate (hc e he)⟩
  | negation child ih => exact ih (!negate) (by simpa using h)
  | predicate p => simp [denegate]

theorem isPositive_denegate (negate : Bool) (e : Expr) : (e.denegate negate).IsPositive := by
  induction e generalizing negate with
  | empty => simp [denegate]
  | group c children ih =>
    simp only [denegate, denegateAll_eq_map, isPositive_group, List.forall_mem_map]
    exact fun e he => ih e he negate
  | negation child ih => exact ih (!negate)
  | predicate p => simp [denegate]

theorem isProper_align (h : e.IsProper) : e.align.IsProper := by
  induction e with
  | empty => simp at h
  | group c children ih =>
    obtain ⟨hne, hc⟩ := isProper_group.mp h
    simp only [align, alignAll_eq_map, isProper_group, ne_eq, List.map_eq_nil_iff,
      List.forall_mem_map]
    exact ⟨hne, fun e he => ih e he (hc e he)⟩
  | negation child ih => simpa [align] using ih (by simpa using h)
  | predicate p => simp [align]

theorem isPositive_align (h : e.IsPositive) : e.align.IsPositive := by
  induction e with
  | empty => exact h
  | group c children ih =>
    simp only [align, alignAll_eq_map, isPositive_group, List.forall_mem_map]
    exact fun e he => ih e he (isPositive_group.mp h e he)
  | negation child _ => simp at h
  | predicate p => simp [align]

theorem mem_deduplicateAll_eraseDups {x : Expr} :
    x ∈ (deduplicateAll es).eraseDups ↔ ∃ e ∈ es, e.deduplicate = x := by
  simp [deduplicateAll_eq_map]

theorem mem_leaves_deduplicate {p : Predicate} (h : p ∈ e.deduplicate.leaves) : p ∈ e.leaves := by
  induction e with
  | group c children ih =>
    rw [deduplicate, leaves_join] at h
    obtain ⟨x, hx, hp⟩ := List.mem_flatMap.mp h
    obtain ⟨e, he, rfl⟩ := mem_deduplicateAll_eraseDups.mp hx
    exact mem_leaves_group.mpr ⟨e, he, ih e he hp⟩
  | negation child ih => exact ih h
  | _ => exact h

theorem isProper_deduplicate (h : e.IsProper) : e.deduplicate.IsProper := by
  induction e with
  | empty => simp at h
  | group c children ih =>
    obtain ⟨hne, hc⟩ := isProper_group.mp h
    refine isProper_join ?_ fun x hx => ?_
    · obtain ⟨e, he⟩ := List.exists_mem_of_ne_nil children hne
      exact List.ne_nil_of_mem (mem_deduplicateAll_eraseDups.mpr ⟨e, he, rfl⟩)
    · obtain ⟨e, he, rfl⟩ := mem_deduplicateAll_eraseDups.mp hx
      exact ih e he (hc e he)
  | negation child ih => simpa [deduplicate] using ih (by simpa using h)
  | predicate p => exact h

theorem isPositive_deduplicate (h : e.IsPositive) : e.deduplicate.IsPositive := by
  induction e with
  | group c children ih =>
    refine isPositive_join fun x hx => ?_
    obtain ⟨e, he, rfl⟩ := mem_deduplicateAll_eraseDups.mp hx
    exact ih e he (isPositive_group.mp h e he)
  | negation child _ => simp at h
  | _ => exact h

theorem isInhabited_deduplicate (e : Expr) : e.deduplicate.IsInhabited := by
  induction e with
  | group c children ih =>
    refine isInhabited_join fun x hx => ?_
    obtain ⟨e, he, rfl⟩ := mem_deduplicateAll_eraseDups.mp hx
    exact ih e he
  | negation child ih => exact everywhere_negation.mpr ⟨by simp, ih⟩
  | empty => simp [deduplicate, IsInhabited]
  | predicate p => simp [deduplicate, IsInhabited]

theorem settle_induction {motive : Expr → Prop} (step : ∀ e, motive e → motive e.tidy) (n : Nat)
    (h : motive e) : motive (settle n e) := by
  induction n generalizing e with
  | zero => exact h
  | succ n ih =>
    rw [settle]
    split
    · exact h
    · exact ih (step e h)

/-- What holds after the first round and is kept by every further one holds of the normal form. -/
theorem normalize_induction {motive : Expr → Prop}
    (first : motive ((e.hoist.denegate false).align.deduplicate))
    (step : ∀ e, motive e → motive e.tidy) : motive e.normalize :=
  settle_induction step _ first

theorem isPositive_normalize (e : Expr) : e.normalize.IsPositive :=
  normalize_induction (isPositive_deduplicate (isPositive_align (isPositive_denegate false _)))
    fun _ h => isPositive_deduplicate (isPositive_hoist h)

theorem isInhabited_normalize (e : Expr) : e.normalize.IsInhabited :=
  normalize_induction (isInhabited_deduplicate _) fun _ _ => isInhabited_deduplicate _

theorem isProper_normalize (h : e.IsProper) : e.normalize.IsProper :=
  normalize_induction (isProper_deduplicate (isProper_align (isProper_denegate false
    (isProper_hoist h)))) fun _ h => isProper_deduplicate (isProper_hoist h)

/-- Each predicate of the normal form is one of the expression, perhaps negated, with a lone literal
on the right. -/
theorem mem_leaves_normalize {p : Predicate} (h : p ∈ e.normalize.leaves) :
    ∃ q ∈ e.leaves, p = q.aligned ∨ p = q.negated.aligned := by
  revert p
  refine normalize_induction (motive := fun x => ∀ {p}, p ∈ x.leaves →
    ∃ q ∈ e.leaves, p = q.aligned ∨ p = q.negated.aligned) ?_ ?_
  · intro p hp
    obtain ⟨a, ha, rfl⟩ := mem_leaves_align (mem_leaves_deduplicate hp)
    obtain ⟨q, hq, hqa⟩ := mem_leaves_denegate ha
    rw [leaves_hoist] at hq
    exact ⟨q, hq, hqa.imp (congrArg _) (congrArg _)⟩
  · intro x hx p hp
    have hp' := mem_leaves_deduplicate hp
    rw [leaves_hoist] at hp'
    exact hx hp'

theorem validateAll_eq_ok_iff : validateAll es = .ok () ↔ ∀ e ∈ es, e.validate = .ok () := by
  induction es with
  | nil => simp [validateAll]
  | cons e rest ih =>
    cases he : e.validate with
    | ok u => simp [validateAll, he, ih]
    | error err => simp [validateAll, he]

theorem validate_of_mem_leaves {p : Predicate} (h : e.validate = .ok ()) (hp : p ∈ e.leaves) :
    p.validate = .ok () := by
  induction e with
  | empty => simp [leaves] at hp
  | group c children ih =>
    obtain ⟨e, he, hp⟩ := mem_leaves_group.mp hp
    exact ih e he (validateAll_eq_ok_iff.mp h e he) hp
  | negation child ih => exact ih h hp
  | predicate q =>
    obtain rfl : p = q := by simpa [leaves] using hp
    exact h

theorem isProper_of_validate (h : e.validate = .ok ()) (hi : e.IsInhabited) : e.IsProper := by
  induction e with
  | empty => simp [validate] at h
  | group c children ih =>
    obtain ⟨hne, hc⟩ := everywhere_group.mp hi
    have hvalid := validateAll_eq_ok_iff.mp (by simpa [validate] using h)
    refine isProper_group.mpr ⟨?_, fun e he => ih e he (hvalid e he) (hc e he)⟩
    rintro rfl
    exact hne c rfl
  | negation child ih => exact isProper_negation.mpr (ih h (everywhere_negation.mp hi).2)
  | predicate p => simp

end EventFilter.Expr
