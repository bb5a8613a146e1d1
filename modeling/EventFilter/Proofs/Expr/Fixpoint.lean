import EventFilter.Proofs.Expr.Siblings

/-! Normalization to the end. A round that changes an expression makes it smaller, so that the rounds
end. What they end with has the shape of a normal form, and to normalize it again changes nothing. -/

namespace EventFilter.Predicate

theorem not_literal_extractor_aligned (p : Predicate) :
    ¬ (p.aligned.lhs.isExtractor = false ∧ p.aligned.rhs.isExtractor = true) := by
  obtain ⟨l, op, r⟩ := p
  cases l <;> cases r <;> simp [aligned, flipped, Operand.isExtractor]

theorem aligned_eq_self {p : Predicate}
    (h : ¬ (p.lhs.isExtractor = false ∧ p.rhs.isExtractor = true)) : p.aligned = p := by
  obtain ⟨l, op, r⟩ := p
  cases l <;> cases r <;> simp_all [aligned, Operand.isExtractor]

@[simp] theorem mentionsMetadata_negated (p : Predicate) :
    p.negated.mentionsMetadata = p.mentionsMetadata := rfl

@[simp] theorem mentionsMetadata_aligned (p : Predicate) :
    p.aligned.mentionsMetadata = p.mentionsMetadata := by
  obtain ⟨l, op, r⟩ := p
  cases l <;> cases r <;>
    simp [aligned, flipped, mentionsMetadata, Operand.isMetadata]

end EventFilter.Predicate

namespace EventFilter.Expr

variable {c : Connective} {e n : Expr} {es fs : List Expr}

/-! ### Size -/

theorem size_pos (e : Expr) : 0 < e.size := by cases e <;> simp [size]

theorem sizeAll_append (es fs : List Expr) : sizeAll (es ++ fs) = sizeAll es + sizeAll fs := by
  induction es with
  | nil => simp [sizeAll]
  | cons e rest ih =>
    simp only [List.cons_append, sizeAll, ih]
    omega

theorem sizeAll_le_of_sublist (h : es.Sublist fs) : sizeAll es ≤ sizeAll fs := by
  induction h with
  | slnil => exact Nat.le_refl _
  | cons e _ ih =>
    simp only [sizeAll]
    omega
  | cons_cons e _ ih =>
    simp only [sizeAll]
    omega

theorem size_join_le (c : Connective) (es : List Expr) : (join c es).size ≤ sizeAll es + 1 := by
  match es with
  | [] => simp [join, size]
  | [e] =>
    simp only [join, sizeAll]
    omega
  | _ :: _ :: _ => exact Nat.le_refl _

theorem sizeAll_deduplicateAll_le (h : ∀ e ∈ es, e.deduplicate.size ≤ e.size) :
    sizeAll (deduplicateAll es) ≤ sizeAll es := by
  induction es with
  | nil => exact Nat.le_refl _
  | cons e rest ih =>
    have hhead := h e List.mem_cons_self
    have htail := ih fun f hf => h f (List.mem_cons_of_mem _ hf)
    simp only [deduplicateAll, sizeAll]
    omega

theorem size_deduplicate_le (e : Expr) : e.deduplicate.size ≤ e.size := by
  induction e with
  | group c children ih =>
    have hjoin := size_join_le c (deduplicateAll children).eraseDups
    have hdups := sizeAll_le_of_sublist (eraseDups_sublist (deduplicateAll children))
    have hchildren := sizeAll_deduplicateAll_le ih
    simp only [deduplicate, size]
    omega
  | negation child ih =>
    simp only [deduplicate, size]
    omega
  | _ => exact Nat.le_refl _

/-- A child stays as it is, or makes room where it is spliced in. -/
theorem splice_hoist_eq_or_lt (c : Connective) (h : e.hoist = e ∨ e.hoist.size < e.size) :
    splice c e.hoist = [e] ∨ sizeAll (splice c e.hoist) < e.size := by
  rcases splice_cases c e.hoist with ⟨es, hgroup, hs⟩ | hs
  · right
    have hsize : e.hoist.size = sizeAll es + 1 := by rw [hgroup, size]
    rw [hs]
    rcases h with h | h
    · rw [h] at hsize
      omega
    · omega
  · rcases h with h | h
    · exact .inl (by rw [hs, h])
    · right
      simpa [hs, sizeAll] using h

theorem hoistAll_eq_or_lt (c : Connective)
    (h : ∀ e ∈ es, e.hoist = e ∨ e.hoist.size < e.size) :
    hoistAll c es = es ∨ sizeAll (hoistAll c es) < sizeAll es := by
  induction es with
  | nil => exact .inl rfl
  | cons e rest ih =>
    have hhead := splice_hoist_eq_or_lt c (h e List.mem_cons_self)
    have htail := ih fun f hf => h f (List.mem_cons_of_mem _ hf)
    have hsize := sizeAll_append (splice c e.hoist) (hoistAll c rest)
    simp only [hoistAll, sizeAll]
    rcases hhead with hhead | hhead <;> rcases htail with htail | htail
    · exact .inl (by rw [hhead, htail]; rfl)
    · right
      simp only [hhead, sizeAll] at hsize ⊢
      omega
    · right
      rw [htail] at hsize ⊢
      omega
    · right
      omega

theorem size_hoist_lt (h : e.IsReduced) (hne : e.hoist ≠ e) : e.hoist.size < e.size := by
  have heq_or_lt : e.hoist = e ∨ e.hoist.size < e.size := by
    clear hne
    induction e with
    | group c children ih =>
      obtain ⟨⟨hlen, -⟩, hc⟩ := everyGroup_group.mp h
      rcases hoistAll_eq_or_lt c fun e he => ih e he (hc e he) with hsame | hlt
      · exact .inl (by rw [hoist, hsame, join_eq_group hlen])
      · right
        have hjoin := size_join_le c (hoistAll c children)
        simp only [hoist, size]
        omega
    | negation child ih =>
      refine (ih (everyGroup_negation.mp h)).imp (fun hsame => ?_) fun hlt => ?_
      · rw [hoist, hsame]
      · simp only [hoist, size]
        omega
    | _ => exact .inl rfl
  exact heq_or_lt.resolve_left hne

/-- A round takes at least one node away, or it changes nothing. -/
theorem size_tidy_lt (h : e.IsReduced) (hne : e.tidy ≠ e) : e.tidy.size < e.size := by
  have hhoist : e.hoist ≠ e := by
    intro hsame
    exact hne (by rw [tidy, hsame, deduplicate_eq_self h])
  exact Nat.lt_of_le_of_lt (size_deduplicate_le e.hoist) (size_hoist_lt h hhoist)

/-- A round that changes nothing finds nothing to hoist. -/
theorem isFlat_of_tidy_eq (h : e.IsReduced) (htidy : e.tidy = e) : e.IsFlat := by
  by_cases hhoist : e.hoist = e
  · exact hhoist ▸ isFlat_hoist e
  · have hlt := size_hoist_lt h hhoist
    have hle := size_deduplicate_le e.hoist
    rw [← tidy, htidy] at hle
    omega

/-! ### Rounds -/

/-- Rounds are taken from the first expression until one changes nothing, which is the second. -/
inductive Settles : Expr → Expr → Prop where
  | done {e : Expr} (h : e.tidy = e) : Settles e e
  | round {e n : Expr} (h : e.tidy ≠ e) (rest : Settles e.tidy n) : Settles e n

theorem Settles.tidy_eq (h : Settles e n) : n.tidy = n := by
  induction h with
  | done h => exact h
  | round _ _ ih => exact ih

theorem Settles.isReduced (h : Settles e n) (he : e.IsReduced) : n.IsReduced := by
  induction h with
  | done _ => exact he
  | round _ _ ih => exact ih (isReduced_deduplicate _)

/-- As many rounds as there are nodes are enough. -/
theorem settles_settle (h : e.IsReduced) {k : Nat} (hk : e.size ≤ k) : Settles e (settle k e) := by
  induction k generalizing e with
  | zero =>
    have := size_pos e
    omega
  | succ k ih =>
    by_cases htidy : e.tidy = e
    · rw [settle, if_pos htidy]
      exact Settles.done htidy
    · have hlt := size_tidy_lt h htidy
      have hrest : Settles e.tidy (settle k e.tidy) :=
        ih (isReduced_deduplicate e.hoist) (by omega)
      rw [settle, if_neg htidy]
      exact Settles.round htidy hrest

/-- The first round of normalization, which also moves negations and literals. -/
def firstRound (e : Expr) : Expr := (e.hoist.denegate false).align.deduplicate

theorem settles_normalize (e : Expr) : Settles e.firstRound e.normalize :=
  settles_settle (isReduced_deduplicate _) (Nat.le_refl _)

/-! ### The normal form -/

/-- No negation, no group of fewer than two children, with equal ones or within one of its kind, and
no literal on the left of an extractor. -/
structure IsNormal (e : Expr) : Prop where
  positive : e.IsPositive
  reduced : e.IsReduced
  flat : e.IsFlat
  aligned : ∀ p ∈ e.leaves, ¬ (p.lhs.isExtractor = false ∧ p.rhs.isExtractor = true)

theorem isNormal_normalize (e : Expr) : e.normalize.IsNormal := by
  have hsettles := settles_normalize e
  have hreduced : e.normalize.IsReduced := hsettles.isReduced (isReduced_deduplicate _)
  refine ⟨isPositive_normalize e, hreduced, isFlat_of_tidy_eq hreduced hsettles.tidy_eq,
    fun p hp => ?_⟩
  obtain ⟨q, -, rfl | rfl⟩ := mem_leaves_normalize hp
  · exact q.not_literal_extractor_aligned
  · exact q.negated.not_literal_extractor_aligned

theorem denegate_false_eq_self (h : e.IsPositive) : e.denegate false = e := by
  induction e with
  | group c children ih =>
    have hchildren := List.map_congr_left fun e he => ih e he (isPositive_group.mp h e he)
    rw [denegate, denegateAll_eq_map, hchildren, List.map_id']
    rfl
  | negation child _ => simp at h
  | _ => rfl

theorem align_eq_self
    (h : ∀ p ∈ e.leaves, ¬ (p.lhs.isExtractor = false ∧ p.rhs.isExtractor = true)) :
    e.align = e := by
  induction e with
  | empty => rfl
  | group c children ih =>
    have hchildren := List.map_congr_left fun e he =>
      ih e he fun p hp => h p (mem_leaves_group.mpr ⟨e, he, hp⟩)
    rw [align, alignAll_eq_map, hchildren, List.map_id']
  | negation child ih => rw [align, ih h]
  | predicate p => rw [align, Predicate.aligned_eq_self (h p (by simp [leaves]))]

theorem normalize_eq_self (h : e.IsNormal) : e.normalize = e := by
  have hhoist : e.hoist = e := hoist_eq_self h.reduced h.flat
  have hdeduplicate : e.deduplicate = e := deduplicate_eq_self h.reduced
  have hfirst : e.firstRound = e := by
    rw [firstRound, hhoist, denegate_false_eq_self h.positive, align_eq_self h.aligned,
      hdeduplicate]
  have htidy : e.tidy = e := by rw [tidy, hhoist, hdeduplicate]
  have hsettle : ∀ k, settle k e = e := fun k => by cases k <;> simp [settle, htidy]
  change settle e.firstRound.size e.firstRound = e
  rw [hfirst, hsettle]

/-! ### Without metadata -/

theorem prune_negation (h : e.prune ≠ empty) : (negation e).prune = negation e.prune := by
  cases he : e.prune with
  | empty => exact absurd he h
  | _ => simp only [prune, he]

theorem mentionsMetadata_of_mem_prune {p : Predicate} (h : p ∈ e.prune.leaves) :
    p.mentionsMetadata = false := by
  induction e with
  | empty => simp [prune, leaves] at h
  | group c children ih =>
    rw [prune, leaves_join, pruneAll_eq_filter] at h
    obtain ⟨x, hx, hp⟩ := List.mem_flatMap.mp h
    obtain ⟨e, he, rfl⟩ := List.mem_map.mp (List.mem_filter.mp hx).1
    exact ih e he hp
  | negation child ih =>
    by_cases hchild : child.prune = empty
    · simp [prune, hchild, leaves] at h
    · exact ih (by simpa [prune_negation hchild, leaves] using h)
  | predicate q =>
    by_cases hq : q.mentionsMetadata
    · simp [prune, hq, leaves] at h
    · obtain rfl : p = q := by simpa [prune, hq, leaves] using h
      simpa using hq

theorem isProper_prune (h : e.prune ≠ empty) : e.prune.IsProper := by
  induction e with
  | empty => exact absurd rfl h
  | group c children ih =>
    rw [prune, pruneAll_eq_filter] at h ⊢
    refine isProper_join (fun hnil => h (by rw [hnil, join])) fun x hx => ?_
    obtain ⟨hx, hne⟩ := List.mem_filter.mp hx
    obtain ⟨e, he, rfl⟩ := List.mem_map.mp hx
    refine ih e he fun hempty => ?_
    simp [hempty, isEmpty] at hne
  | negation child ih =>
    by_cases hchild : child.prune = empty
    · exact absurd (by simp [prune, hchild]) h
    · rw [prune_negation hchild]
      exact isProper_negation.mpr (ih hchild)
  | predicate p =>
    by_cases hp : p.mentionsMetadata
    · simp [prune, hp] at h
    · simp [prune, hp]

theorem prune_eq_self (h : e.IsProper) (hreduced : e.IsReduced)
    (hmeta : ∀ p ∈ e.leaves, p.mentionsMetadata = false) : e.prune = e := by
  induction e with
  | empty => rfl
  | group c children ih =>
    obtain ⟨⟨hlen, -⟩, hr⟩ := everyGroup_group.mp hreduced
    have hc := (isProper_group.mp h).2
    have hchildren := List.map_congr_left fun e he =>
      ih e he (hc e he) (hr e he) fun p hp => hmeta p (mem_leaves_group.mpr ⟨e, he, hp⟩)
    have hkeep : children.filter (fun e => !e.isEmpty) = children := by
      refine List.filter_eq_self.mpr fun e he => ?_
      cases e with
      | empty => exact absurd rfl (hc _ he).ne_empty
      | _ => rfl
    rw [prune, pruneAll_eq_filter, hchildren, List.map_id', hkeep, join_eq_group hlen]
  | negation child ih =>
    have hproper := isProper_negation.mp h
    have hchild := ih hproper (everyGroup_negation.mp hreduced) hmeta
    have hne : child.prune ≠ empty := by
      rw [hchild]
      exact hproper.ne_empty
    rw [prune_negation hne, hchild]
  | predicate p => simp [prune, hmeta p (by simp [leaves])]

theorem normalizeWith_true_of_prune_eq (h : e.prune = empty) : e.normalizeWith true = empty := by
  simp only [normalizeWith, if_true, h]
  rfl

theorem prune_normalizeWith_true (e : Expr) :
    (e.normalizeWith true).prune = e.normalizeWith true := by
  by_cases hempty : e.prune = empty
  · rw [normalizeWith_true_of_prune_eq hempty]
    rfl
  · refine prune_eq_self (isProper_normalize (isProper_prune hempty))
      (isNormal_normalize e.prune).reduced fun p hp => ?_
    obtain ⟨q, hq, rfl | rfl⟩ := mem_leaves_normalize hp
    · simpa using mentionsMetadata_of_mem_prune hq
    · simpa using mentionsMetadata_of_mem_prune hq

/-- The rounds of normalization end, whatever the expression. They end with an expression of normal
shape, without metadata where that is pruned, which normalization leaves as it is. -/
theorem normalizeWith_settles_on_normal_form (pruneMetadata : Bool) (e : Expr) :
    Settles (if pruneMetadata then e.prune else e).firstRound (e.normalizeWith pruneMetadata) ∧
      (e.normalizeWith pruneMetadata).IsNormal ∧
      (pruneMetadata = true → ∀ p ∈ (e.normalizeWith pruneMetadata).leaves,
        p.mentionsMetadata = false) ∧
      (e.normalizeWith pruneMetadata).normalizeWith pruneMetadata =
        e.normalizeWith pruneMetadata := by
  have hnormal : (e.normalizeWith pruneMetadata).IsNormal := isNormal_normalize _
  refine ⟨settles_normalize _, hnormal, fun hprune p hp => ?_, ?_⟩
  · subst hprune
    obtain ⟨q, hq, rfl | rfl⟩ := mem_leaves_normalize hp
    · simpa using mentionsMetadata_of_mem_prune hq
    · simpa using mentionsMetadata_of_mem_prune hq
  · cases pruneMetadata with
    | false => exact normalize_eq_self hnormal
    | true =>
      change (e.normalizeWith true).prune.normalize = _
      rw [prune_normalizeWith_true, normalize_eq_self hnormal]

end EventFilter.Expr
