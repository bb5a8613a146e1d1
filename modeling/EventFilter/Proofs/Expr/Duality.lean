import EventFilter.Proofs.Expr.Fixpoint

/-! Negation as a symmetry. Pushing a negation to the leaves of an expression without negations
exchanges the two kinds of groups and negates every predicate. Each pass treats both sides alike, so
that the normal form of a negation is the normal form with both exchanged. -/

namespace EventFilter

theorem Connective.under_under (c : Connective) (m n : Bool) :
    (c.under m).under n = c.under (m != n) := by
  cases c <;> cases m <;> cases n <;> rfl

theorem Connective.under_inj {c d : Connective} {n : Bool} : c.under n = d.under n ↔ c = d := by
  cases c <;> cases d <;> cases n <;> decide

namespace Predicate

@[simp] theorem negated_negated (p : Predicate) : p.negated.negated = p := by
  simp [negated]

theorem aligned_negated (p : Predicate) : p.negated.aligned = p.aligned.negated := by
  obtain ⟨l, op, r⟩ := p
  cases l <;> cases r <;> simp [negated, aligned, flipped, Operator.flip_negate]

@[simp] theorem form_aligned (p : Predicate) : p.aligned.form = p.form := by
  obtain ⟨l, op, r⟩ := p
  cases l <;> cases r <;> rfl

/-- The comparison under the negated operator. -/
def Form.negated : Form → Form
  | constant a op b => constant a op.negate b
  | test x op d => test x op.negate d
  | pair x y => pair x y

@[simp] theorem form_negated (p : Predicate) : p.negated.form = p.form.negated := by
  obtain ⟨l, op, r⟩ := p
  cases l <;> cases r <;> simp [Predicate.negated, form, Form.negated, Operator.flip_negate]

end Predicate

namespace Expr

variable {c : Connective} {e a b : Expr} {negate : Bool}

theorem denegate_denegate (e : Expr) (m n : Bool) :
    (e.denegate m).denegate n = e.denegate (m != n) := by
  induction e generalizing m with
  | empty => rfl
  | group c children ih =>
    simp only [denegate, denegateAll_eq_map, List.map_map, Connective.under_under]
    exact congrArg _ (List.map_congr_left fun e he => ih e he m)
  | negation child ih =>
    rw [denegate, ih, denegate]
    cases m <;> cases n <;> rfl
  | predicate p => cases m <;> cases n <;> simp [denegate]

theorem denegate_injective (negate : Bool) (ha : a.IsPositive) (hb : b.IsPositive)
    (h : a.denegate negate = b.denegate negate) : a = b := by
  have hback : (a.denegate negate).denegate negate = (b.denegate negate).denegate negate := by
    rw [h]
  simpa [denegate_denegate, denegate_false_eq_self, ha, hb] using hback

theorem size_denegate (h : e.IsPositive) : (e.denegate negate).size = e.size := by
  induction e with
  | group c children ih =>
    have hchildren : sizeAll (denegateAll negate children) = sizeAll children := by
      have hc := isPositive_group.mp h
      clear h
      induction children with
      | nil => rfl
      | cons e rest ihrest =>
        have hhead := ih e List.mem_cons_self (hc e List.mem_cons_self)
        have htail := ihrest (fun f hf => ih f (List.mem_cons_of_mem _ hf))
          fun f hf => hc f (List.mem_cons_of_mem _ hf)
        simp only [denegateAll, sizeAll, hhead, htail]
    simp only [denegate, size, hchildren]
  | negation child _ => simp at h
  | _ => rfl

theorem align_denegate (e : Expr) : (e.denegate negate).align = e.align.denegate negate := by
  induction e generalizing negate with
  | empty => rfl
  | group c children ih =>
    simp only [denegate, align, denegateAll_eq_map, alignAll_eq_map, List.map_map]
    exact congrArg _ (List.map_congr_left fun e he => ih e he)
  | negation child ih => exact ih
  | predicate p => cases negate <;> simp [denegate, align, Predicate.aligned_negated]

theorem denegate_join (c : Connective) (es : List Expr) :
    (join c es).denegate negate = join (c.under negate) (es.map (denegate negate)) := by
  match es with
  | [] => rfl
  | [e] => rfl
  | e :: f :: rest => simp [join, denegate, denegateAll_eq_map]

theorem splice_denegate (c : Connective) (h : e.IsPositive) :
    splice (c.under negate) (e.denegate negate) = (splice c e).map (denegate negate) := by
  cases e with
  | group d es =>
    by_cases hd : d = c
    · simp [denegate, splice, hd, denegateAll_eq_map]
    · simp [denegate, splice, hd, Connective.under_inj]
  | negation child => simp at h
  | _ => rfl

theorem hoist_denegate (h : e.IsPositive) :
    (e.denegate negate).hoist = e.hoist.denegate negate := by
  induction e with
  | group c children ih =>
    have hchild : ∀ e ∈ children, splice (c.under negate) (e.denegate negate).hoist =
        (splice c e.hoist).map (denegate negate) := by
      intro e he
      have hpos := isPositive_group.mp h e he
      rw [ih e he hpos, splice_denegate c (isPositive_hoist hpos)]
    simp only [denegate, hoist, denegate_join, hoistAll_eq_flatMap, denegateAll_eq_map,
      List.flatMap_map, List.map_flatMap]
    rw [List.flatMap_def, List.map_congr_left hchild, ← List.flatMap_def]
  | negation child _ => simp at h
  | _ => rfl

theorem deduplicate_denegate (h : e.IsPositive) :
    (e.denegate negate).deduplicate = e.deduplicate.denegate negate := by
  induction e with
  | group c children ih =>
    have hchildren : deduplicateAll (denegateAll negate children) =
        (deduplicateAll children).map (denegate negate) := by
      simp only [denegateAll_eq_map, deduplicateAll_eq_map, List.map_map]
      exact List.map_congr_left fun e he => ih e he (isPositive_group.mp h e he)
    have hpos : ∀ x ∈ deduplicateAll children, x.IsPositive := by
      rw [deduplicateAll_eq_map]
      exact List.forall_mem_map.mpr fun e he => isPositive_deduplicate (isPositive_group.mp h e he)
    -- negation keeps different children apart, so that it drops as many of them
    have hdups := eraseDups_map (deduplicateAll children) fun x hx y hy =>
      denegate_injective negate (hpos x hx) (hpos y hy)
    simp only [denegate, deduplicate, denegate_join, hchildren, hdups]
  | negation child _ => simp at h
  | _ => rfl

theorem isPositive_tidy (h : e.IsPositive) : e.tidy.IsPositive :=
  isPositive_deduplicate (isPositive_hoist h)

theorem tidy_denegate (h : e.IsPositive) : (e.denegate negate).tidy = e.tidy.denegate negate := by
  rw [tidy, hoist_denegate h, deduplicate_denegate (isPositive_hoist h), tidy]

theorem settle_denegate (k : Nat) (h : e.IsPositive) :
    settle k (e.denegate negate) = (settle k e).denegate negate := by
  induction k generalizing e with
  | zero => rfl
  | succ k ih =>
    by_cases htidy : e.tidy = e
    · simp only [settle, tidy_denegate h, htidy, if_true]
    · have hne : e.tidy.denegate negate ≠ e.denegate negate := fun heq =>
        htidy (denegate_injective negate (isPositive_tidy h) h heq)
      simp only [settle, tidy_denegate h, htidy, hne, if_false, ih (isPositive_tidy h)]

/-- To normalize the negation is to negate the normal form. -/
theorem normalize_negation (e : Expr) : (negation e).normalize = e.normalize.denegate true := by
  have halign : ((e.hoist.denegate false).align).IsPositive :=
    isPositive_align (isPositive_denegate false e.hoist)
  have hfirst : (negation e).firstRound = e.firstRound.denegate true := by
    calc (negation e).firstRound
        = ((e.hoist.denegate false).denegate true).align.deduplicate := by
          rw [denegate_denegate]; rfl
      _ = ((e.hoist.denegate false).align.denegate true).deduplicate := by rw [align_denegate]
      _ = e.firstRound.denegate true := deduplicate_denegate halign
  have hpos : e.firstRound.IsPositive := isPositive_deduplicate halign
  change settle (negation e).firstRound.size (negation e).firstRound = _
  rw [hfirst, size_denegate hpos, settle_denegate _ hpos]
  rfl

end Expr

/-! ### Validity -/

theorem Extractor.validate_negate (x : Extractor) (op : Operator) (d : Data) :
    x.validate op.negate d = .ok () ↔ x.validate op d = .ok () := by
  unfold validate
  split
  · split <;> simp
  · split <;> simp
  · simp [DataType.compatible_negate]
  · simp
  · simp

theorem Predicate.validate_negated (p : Predicate) :
    p.negated.validate = .ok () ↔ p.validate = .ok () := by
  simp only [validate, form_negated]
  cases p.form with
  | constant a op b => rfl
  | test x op d => exact x.validate_negate op d
  | pair x y => simp [Form.negated]

end EventFilter
