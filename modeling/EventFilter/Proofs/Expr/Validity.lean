import EventFilter.Proofs.Expr.Alignment

/-! Validity of the normal form. A pass negates operators, flips operands, regroups and drops
repetitions; none of this makes a predicate valid or invalid, and nothing empty gets lost. -/

namespace EventFilter.Expr

variable {c : Connective} {e : Expr} {es : List Expr}

/-- Nothing empty anywhere, and every predicate is valid. -/
def IsSound (e : Expr) : Prop := e.IsProper ∧ ∀ p ∈ e.leaves, p.validate = .ok ()

@[simp] theorem not_isSound_empty : ¬ empty.IsSound := fun h => not_isProper_empty h.1

@[simp] theorem isSound_predicate {p : Predicate} :
    (predicate p).IsSound ↔ p.validate = .ok () := by
  simp [IsSound, leaves]

@[simp] theorem isSound_negation : (negation e).IsSound ↔ e.IsSound := by
  simp [IsSound, leaves]

@[simp] theorem isSound_group :
    (group c es).IsSound ↔ es ≠ [] ∧ ∀ e ∈ es, e.IsSound := by
  simp only [IsSound, isProper_group, mem_leaves_group, forall_exists_index, and_imp]
  constructor
  · rintro ⟨⟨hne, hproper⟩, hleaves⟩
    exact ⟨hne, fun e he => ⟨hproper e he, fun p hp => hleaves p e he hp⟩⟩
  · rintro ⟨hne, h⟩
    exact ⟨⟨hne, fun e he => (h e he).1⟩, fun p e he hp => (h e he).2 p hp⟩

theorem isSound_join : (join c es).IsSound ↔ es ≠ [] ∧ ∀ e ∈ es, e.IsSound := by
  match es with
  | [] => simp [join]
  | [e] => simp [join]
  | e :: f :: rest => exact isSound_group

/-! ### The passes -/

/-- Only an empty group could disappear in its parent. -/
theorem isSound_iff_splice (h : e.IsInhabited) : e.IsSound ↔ ∀ x ∈ splice c e, x.IsSound := by
  rcases splice_cases c e with ⟨es, rfl, hs⟩ | hs
  · have hne : es ≠ [] := by
      rintro rfl
      exact (everywhere_group.mp h).1 c rfl
    rw [hs, isSound_group]
    exact and_iff_right hne
  · simp [hs]

theorem isInhabited_hoist (e : Expr) : e.hoist.IsInhabited := by
  induction e with
  | group c children ih =>
    rw [hoist, hoistAll_eq_flatMap]
    refine isInhabited_join fun x hx => ?_
    obtain ⟨e, he, hx⟩ := List.mem_flatMap.mp hx
    exact Everywhere.of_mem_splice (ih e he) hx
  | negation child ih => exact everywhere_negation.mpr ⟨by simp, ih⟩
  | empty => simp [hoist, IsInhabited]
  | predicate p => simp [hoist, IsInhabited]

theorem isSound_hoist : e.hoist.IsSound ↔ e.IsSound := by
  induction e with
  | empty => rfl
  | group c children ih =>
    have hchild : ∀ e ∈ children, (∀ x ∈ splice c e.hoist, x.IsSound) ↔ e.IsSound :=
      fun e he => (isSound_iff_splice (isInhabited_hoist e)).symm.trans (ih e he)
    rw [hoist, hoistAll_eq_flatMap, isSound_join, isSound_group]
    constructor
    · rintro ⟨hne, h⟩
      refine ⟨?_, fun e he => ?_⟩
      · rintro rfl
        exact hne rfl
      · exact (hchild e he).mp fun x hx => h x (List.mem_flatMap.mpr ⟨e, he, hx⟩)
    · rintro ⟨hne, h⟩
      obtain ⟨e, he⟩ := List.exists_mem_of_ne_nil children hne
      have hproper : e.hoist.IsProper := ((ih e he).mpr (h e he)).1
      refine ⟨fun hnil => ?_, fun x hx => ?_⟩
      · exact splice_ne_nil hproper (List.flatMap_eq_nil_iff.mp hnil e he)
      · obtain ⟨e, he, hx⟩ := List.mem_flatMap.mp hx
        exact (hchild e he).mpr (h e he) x hx
  | negation child ih => simpa [hoist] using ih
  | predicate p => rfl

theorem isSound_denegate (negate : Bool) : (e.denegate negate).IsSound ↔ e.IsSound := by
  induction e generalizing negate with
  | empty => rfl
  | group c children ih =>
    simp only [denegate, denegateAll_eq_map, isSound_group, ne_eq, List.map_eq_nil_iff,
      List.forall_mem_map]
    exact and_congr_right fun _ => forall₂_congr fun e he => ih e he negate
  | negation child ih => simpa [denegate] using ih (!negate)
  | predicate p =>
    cases negate with
    | false => rfl
    | true => simpa [denegate] using p.validate_negated

theorem isSound_align : e.align.IsSound ↔ e.IsSound := by
  induction e with
  | empty => rfl
  | group c children ih =>
    simp only [align, alignAll_eq_map, isSound_group, ne_eq, List.map_eq_nil_iff,
      List.forall_mem_map]
    exact and_congr_right fun _ => forall₂_congr ih
  | negation child ih => simpa [align] using ih
  | predicate p => simp [align, Predicate.validate_aligned]

/-- A sibling is dropped only for an equal one that stays. -/
theorem isSound_deduplicate : e.deduplicate.IsSound ↔ e.IsSound := by
  induction e with
  | empty => rfl
  | group c children ih =>
    have hmem : (∀ x ∈ (deduplicateAll children).eraseDups, x.IsSound) ↔
        ∀ e ∈ children, e.IsSound := by
      simp only [mem_deduplicateAll_eraseDups, forall_exists_index, and_imp,
        forall_apply_eq_imp_iff₂]
      exact forall₂_congr ih
    have hne : (deduplicateAll children).eraseDups ≠ [] ↔ children ≠ [] := by
      simp only [ne_eq, List.eq_nil_iff_forall_not_mem, mem_deduplicateAll_eraseDups]
      simp
    rw [deduplicate, isSound_join, isSound_group, hmem, hne]
  | negation child ih => simpa [deduplicate] using ih
  | predicate p => rfl

theorem isSound_normalize : e.normalize.IsSound ↔ e.IsSound := by
  refine normalize_induction (motive := fun x => x.IsSound ↔ e.IsSound) ?_ fun x hx => ?_
  · rw [isSound_deduplicate, isSound_align, isSound_denegate, isSound_hoist]
  · rw [tidy, isSound_deduplicate, isSound_hoist, hx]

/-! ### Validation -/

theorem validate_of_isSound (h : e.IsSound) : e.validate = .ok () := by
  induction e with
  | empty => simp at h
  | group c children ih =>
    rw [validate, validateAll_eq_ok_iff]
    exact fun e he => ih e he ((isSound_group.mp h).2 e he)
  | negation child ih => exact ih (isSound_negation.mp h)
  | predicate p => exact isSound_predicate.mp h

theorem validate_eq_ok_iff_isSound (h : e.IsInhabited) : e.validate = .ok () ↔ e.IsSound := by
  constructor
  · intro hvalid
    exact ⟨isProper_of_validate hvalid h, fun p hp => validate_of_mem_leaves hvalid hp⟩
  · exact validate_of_isSound

theorem validate_normalize_eq_ok_iff (e : Expr) : e.normalize.validate = .ok () ↔ e.IsSound :=
  (validate_eq_ok_iff_isSound (isInhabited_normalize e)).trans isSound_normalize

/-- The normal form of an expression without empty groups is valid iff the expression is. With
anything empty in the expression, be it a group that validation would pass over, it is not. -/
theorem validation_is_stable_under_normalization (e : Expr) :
    (e.IsInhabited → (e.normalize.validate = .ok () ↔ e.validate = .ok ())) ∧
      ((∃ x ∈ e.nodes, x.isHollow) → ∃ err, e.normalize.validate = .error err) := by
  have hnormal := validate_normalize_eq_ok_iff e
  constructor
  · intro h
    rw [hnormal, validate_eq_ok_iff_isSound h]
  · rintro ⟨x, hx, hhollow⟩
    have hunsound : ¬ e.IsSound := fun h => by
      have hfull := h.1 x hx
      simp [hhollow] at hfull
    cases hvalid : e.normalize.validate with
    | ok u => exact absurd (hnormal.mp hvalid) hunsound
    | error err => exact ⟨err, rfl⟩

/-- Not more than five and imported before the epoch, twice over. -/
def earlySmallCount : Expr :=
  let small : Expr := .negation (.predicate ⟨.literal (.int64 5), .less,
    .extractor (.type (.scalar .int64))⟩)
  let early : Expr := .predicate ⟨.literal (.time 0), .greater,
    .extractor (.metadata .importTime)⟩
  .negation (.group .any [.negation (.group .all [small, early]),
    .negation (.group .all [small, early])])

/-- An empty group beside it is valid, but not in the normal form. -/
theorem empty_group_is_invalid_in_normal_form :
    earlySmallCount.IsInhabited ∧ earlySmallCount.normalize.validate = .ok () ∧
    (group .all [earlySmallCount, group .any []]).validate = .ok () ∧
    ∃ err, (group .all [earlySmallCount, group .any []]).normalize.validate = .error err := by
  have hinhabited : earlySmallCount.IsInhabited := by simp [earlySmallCount, IsInhabited]
  have hvalid : earlySmallCount.validate = .ok () := by rfl
  have hhollow : ∃ x ∈ (group .all [earlySmallCount, group .any []]).nodes, x.isHollow :=
    ⟨group .any [], by simp [nodes, nodesAll], rfl⟩
  exact ⟨hinhabited, ((validation_is_stable_under_normalization _).1 hinhabited).mpr hvalid,
    by rfl, (validation_is_stable_under_normalization _).2 hhollow⟩

end EventFilter.Expr
