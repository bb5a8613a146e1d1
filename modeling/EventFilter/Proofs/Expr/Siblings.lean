import EventFilter.Proofs.Expr.NormalForm

/-! The groups in an expression: how many children they have, whether these differ, and whether one
of them is a group of the same kind. Hoisting leaves no group within one of its kind, and
deduplication leaves at least two children in every group, all different. -/

namespace EventFilter

/-! ### Lists without repetitions -/

section

variable {α β : Type} [BEq α] [BEq β]

theorem eraseDups_sublist : (xs : List α) → xs.eraseDups.Sublist xs
  | [] => by simp
  | x :: xs => by
    rw [List.eraseDups_cons]
    exact ((eraseDups_sublist _).trans List.filter_sublist).cons_cons x
termination_by xs => xs.length
decreasing_by exact Nat.lt_succ_of_le (List.length_filter_le _ _)

variable [LawfulBEq α] [LawfulBEq β]

theorem nodup_eraseDups : (xs : List α) → xs.eraseDups.Nodup
  | [] => by simp
  | x :: xs => by
    rw [List.eraseDups_cons, List.nodup_cons]
    exact ⟨by simp, nodup_eraseDups _⟩
termination_by xs => xs.length
decreasing_by exact Nat.lt_succ_of_le (List.length_filter_le _ _)

theorem eraseDups_eq_self {xs : List α} (h : xs.Nodup) : xs.eraseDups = xs := by
  induction xs with
  | nil => rfl
  | cons x xs ih =>
    obtain ⟨hx, hxs⟩ := List.nodup_cons.mp h
    have hkeep : xs.filter (fun y => !y == x) = xs := by
      refine List.filter_eq_self.mpr fun y hy => ?_
      have hne : y ≠ x := fun heq => hx (heq ▸ hy)
      simp [hne]
    rw [List.eraseDups_cons, hkeep, ih hxs]

theorem eraseDups_map {f : α → β} : (xs : List α) →
    (∀ x ∈ xs, ∀ y ∈ xs, f x = f y → x = y) → (xs.map f).eraseDups = xs.eraseDups.map f
  | [], _ => rfl
  | x :: xs, h => by
    have hfilter : (xs.map f).filter (fun b => !b == f x) =
        (xs.filter fun a => !a == x).map f := by
      rw [List.filter_map]
      refine congrArg (List.map f) (List.filter_congr fun y hy => ?_)
      have hiff : f y = f x ↔ y = x :=
        ⟨h y (List.mem_cons_of_mem _ hy) x List.mem_cons_self, congrArg f⟩
      have hbeq : (f y == f x) = (y == x) := by
        rw [Bool.eq_iff_iff, beq_iff_eq, beq_iff_eq, hiff]
      simp [hbeq]
    have ih := eraseDups_map (xs.filter fun a => !a == x) fun y hy z hz =>
      h y (List.mem_cons_of_mem _ (List.mem_filter.mp hy).1) z
        (List.mem_cons_of_mem _ (List.mem_filter.mp hz).1)
    rw [List.map_cons, List.eraseDups_cons, List.eraseDups_cons, hfilter, ih, List.map_cons]
termination_by xs => xs.length
decreasing_by exact Nat.lt_succ_of_le (List.length_filter_le _ _)

end

namespace Expr

/-! ### Properties of all groups -/

variable {q : Connective → List Expr → Prop} {c : Connective} {e : Expr} {es : List Expr}

/-- A property of the kind and the children of every group in an expression. -/
def EveryGroup (q : Connective → List Expr → Prop) (e : Expr) : Prop :=
  e.Everywhere fun x => ∀ c es, x = group c es → q c es

@[simp] theorem everyGroup_empty : empty.EveryGroup q := by simp [EveryGroup]

@[simp] theorem everyGroup_predicate (p : Predicate) : (predicate p).EveryGroup q := by
  simp [EveryGroup]

@[simp] theorem everyGroup_negation : (negation e).EveryGroup q ↔ e.EveryGroup q := by
  simp [EveryGroup]

@[simp] theorem everyGroup_group :
    (group c es).EveryGroup q ↔ q c es ∧ ∀ e ∈ es, e.EveryGroup q := by
  simp [EveryGroup]

theorem everyGroup_join (h : ∀ e ∈ es, e.EveryGroup q) (hq : 2 ≤ es.length → q c es) :
    (join c es).EveryGroup q := by
  refine everywhere_join h (by simp) fun hlen d fs heq => ?_
  obtain ⟨rfl, rfl⟩ := group.inj heq
  exact hq hlen

theorem join_eq_group (h : 2 ≤ es.length) : join c es = group c es := by
  match es with
  | [] => simp at h
  | [e] => simp at h
  | _ :: _ :: _ => rfl

/-- Every group has at least two children, and they all differ. -/
def IsReduced (e : Expr) : Prop := e.EveryGroup fun _ es => 2 ≤ es.length ∧ es.Nodup

/-- No child of a group is a group of the same kind. -/
def IsFlat (e : Expr) : Prop := e.EveryGroup fun c es => ∀ fs, group c fs ∉ es

theorem isReduced_deduplicate (e : Expr) : e.deduplicate.IsReduced := by
  induction e with
  | empty => exact everyGroup_empty
  | group c children ih =>
    refine everyGroup_join (fun x hx => ?_) fun hlen => ⟨hlen, nodup_eraseDups _⟩
    obtain ⟨e, he, rfl⟩ := mem_deduplicateAll_eraseDups.mp hx
    exact ih e he
  | negation child ih => exact everyGroup_negation.mpr ih
  | predicate p => exact everyGroup_predicate p

theorem deduplicate_eq_self (h : e.IsReduced) : e.deduplicate = e := by
  induction e with
  | group c children ih =>
    obtain ⟨⟨hlen, hnodup⟩, hc⟩ := everyGroup_group.mp h
    have hchildren : deduplicateAll children = children := by
      rw [deduplicateAll_eq_map, List.map_congr_left fun e he => ih e he (hc e he)]
      exact List.map_id' children
    rw [deduplicate, hchildren, eraseDups_eq_self hnodup, join_eq_group hlen]
  | negation child ih => rw [deduplicate, ih (everyGroup_negation.mp h)]
  | _ => rfl

theorem group_not_mem_splice (h : e.IsFlat) (fs : List Expr) : group c fs ∉ splice c e := by
  by_cases he : ∃ es, e = group c es
  · obtain ⟨es, rfl⟩ := he
    rw [splice_group_self]
    exact (everyGroup_group.mp h).1 fs
  · rw [splice_of_ne fun es heq => he ⟨es, heq⟩, List.mem_singleton]
    exact fun heq => he ⟨fs, heq.symm⟩

theorem isFlat_hoist (e : Expr) : e.hoist.IsFlat := by
  induction e with
  | empty => exact everyGroup_empty
  | group c children ih =>
    rw [hoist, hoistAll_eq_flatMap]
    refine everyGroup_join (fun x hx => ?_) fun _ fs hfs => ?_
    · obtain ⟨e, he, hx⟩ := List.mem_flatMap.mp hx
      exact Everywhere.of_mem_splice (ih e he) hx
    · obtain ⟨e, he, hx⟩ := List.mem_flatMap.mp hfs
      exact group_not_mem_splice (ih e he) fs hx
  | negation child ih => exact everyGroup_negation.mpr ih
  | predicate p => exact everyGroup_predicate p

theorem hoist_eq_self (hreduced : e.IsReduced) (hflat : e.IsFlat) : e.hoist = e := by
  induction e with
  | group c children ih =>
    obtain ⟨⟨hlen, -⟩, hr⟩ := everyGroup_group.mp hreduced
    obtain ⟨hne, hf⟩ := everyGroup_group.mp hflat
    have hchild : ∀ e ∈ children, splice c e.hoist = [e] := fun e he => by
      rw [ih e he (hr e he) (hf e he)]
      exact splice_of_ne fun fs heq => hne fs (heq ▸ he)
    have hchildren : hoistAll c children = children := by
      rw [hoistAll_eq_flatMap, List.flatMap_def, List.map_congr_left hchild]
      simp [← List.flatMap_def]
    rw [hoist, hchildren, join_eq_group hlen]
  | negation child ih =>
    rw [hoist, ih (everyGroup_negation.mp hreduced) (everyGroup_negation.mp hflat)]
  | _ => rfl

end Expr

end EventFilter
