import EventFilter.Eval.Handler
import EventFilter.Proofs.Eval.Rows

/-! Expressions without extractors. They are the ones that have a value without input, and they have
it in every row of every slice. Whatever the handler is, it hears of the diagnostics in their order,
and errors among them decide whether there is a value. -/

namespace EventFilter

variable {σ : Type} {h : Handler σ} {s : σ} {input : Input}

/-! ### Handlers -/

namespace Handler

@[simp] theorem emitAll_nil (h : Handler σ) (s : σ) : h.emitAll s [] = s := rfl

@[simp] theorem emitAll_append (h : Handler σ) (s : σ) (ds es : List Diagnostic) :
    h.emitAll s (ds ++ es) = h.emitAll (h.emitAll s ds) es := List.foldl_append

theorem emitAll_tracker (h : Handler σ) (s : σ) (failed : Bool) (ds : List Diagnostic) :
    h.tracker.emitAll (s, failed) ds = (h.emitAll s ds, failed || hasError ds) := by
  induction ds generalizing s failed with
  | nil => simp [hasError]
  | cons d ds ih =>
    calc h.tracker.emitAll (s, failed) (d :: ds)
        = h.tracker.emitAll (h.emit s d, failed || d.severity = .error) ds := rfl
      _ = (h.emitAll s (d :: ds), failed || hasError (d :: ds)) := by
        rw [ih, Bool.or_assoc]
        rfl

theorem emitAll_collector (ds es : List Diagnostic) : collector.emitAll ds es = ds ++ es := by
  induction es generalizing ds with
  | nil => simp
  | cons e es ih =>
    calc collector.emitAll ds (e :: es) = collector.emitAll (ds ++ [e]) es := rfl
      _ = ds ++ e :: es := by simp [ih]

end Handler

/-! ### Evaluation with a handler -/

theorem Connective.zipWith_combine_assoc (c : Connective) (ts us vs : List Truth) :
    List.zipWith c.combine (List.zipWith c.combine ts us) vs =
      List.zipWith c.combine ts (List.zipWith c.combine us vs) := by
  induction ts generalizing us vs with
  | nil => simp
  | cons t ts ih =>
    cases us with
    | nil => simp
    | cons u us =>
      cases vs with
      | nil => simp
      | cons v vs => simp [combine_assoc, ih]

theorem Connective.zipWith_combine_unit (c : Connective) (ts : List Truth) :
    List.zipWith c.combine ts (List.replicate ts.length c.unit) = ts := by
  induction ts with
  | nil => rfl
  | cons t ts ih => simp [List.replicate_succ, ih]

theorem Connective.zipWith_unit_combine (c : Connective) (ts : List Truth) :
    List.zipWith c.combine (List.replicate ts.length c.unit) ts = ts := by
  induction ts with
  | nil => rfl
  | cons t ts ih => simp [List.replicate_succ, ih]

namespace Expr

theorem diagnostics_group (input : Input) (c : Connective) (es : List Expr) :
    (group c es).diagnostics input = es.flatMap (·.diagnostics input) := by
  simp [diagnostics, leaves, leavesAll_eq_flatMap, List.filterMap_flatMap]

/-- What was combined before meets what comes after. No side is ever longer than the other. -/
theorem runAll_eq {c : Connective} {acc : List Truth} {es : List Expr}
    (hacc : acc.length = input.rows)
    (hes : ∀ e ∈ es, ∀ s, e.run h input s = (e.truths input, h.emitAll s (e.diagnostics input))) :
    runAll h input c acc s es = (List.zipWith c.combine acc (groupTruths input c es),
      h.emitAll s (es.flatMap (·.diagnostics input))) := by
  induction es generalizing acc s with
  | nil => simp [runAll, groupTruths, ← hacc, c.zipWith_combine_unit]
  | cons e es ih =>
    have hlength := e.length_truths input
    have hcombine : c.combineRows acc (e.truths input) =
        .ok (List.zipWith c.combine acc (e.truths input)) := if_pos (by omega)
    have hnext : (List.zipWith c.combine acc (e.truths input)).length = input.rows := by
      rw [List.length_zipWith]
      omega
    simp only [runAll, hes e (by simp), hcombine, Handler.checked]
    rw [ih hnext fun f hf => hes f (List.mem_cons_of_mem _ hf), groupTruths,
      c.zipWith_combine_assoc, List.flatMap_cons, Handler.emitAll_append]

/-- A handler hears of the diagnostics of an expression, and its truths do not depend on it. -/
theorem run_eq (h : Handler σ) (input : Input) (s : σ) (e : Expr) :
    e.run h input s = (e.truths input, h.emitAll s (e.diagnostics input)) := by
  induction e generalizing s with
  | empty => rfl
  | group c children ih =>
    have hlength : input.rows = (groupTruths input c children).length :=
      ((group c children).length_truths input).symm
    rw [run, runAll_eq List.length_replicate fun e he s => ih e he s, hlength,
      c.zipWith_unit_combine, truths, diagnostics_group]
  | negation child ih => simp [run, ih, truths, diagnostics, leaves]
  | predicate p =>
    cases hts : p.truths input with
    | ok ts => simp [run, hts, Handler.checked, truths, diagnostics, leaves]
    | error d => simp [run, hts, Handler.checked, truths, diagnostics, leaves, Handler.emitAll]

theorem maskWith_eq (h : Handler σ) (x : Slice) (s : σ) (e : Expr) :
    e.maskWith h x s = (e.mask x, h.emitAll s (e.diagnostics (.slice x))) := by
  rw [maskWith, run_eq]
  rfl

theorem constantWith_eq (h : Handler σ) (s : σ) (e : Expr) :
    e.constantWith h s = (e.constant, h.emitAll s (e.diagnostics .constant)) := by
  obtain ⟨t, ht⟩ := List.length_eq_one_iff.mp (e.length_truths .constant)
  rw [constantWith, run_eq, Handler.emitAll_tracker, Bool.false_or, constant, ht]
  cases hasError (e.diagnostics .constant) with
  | true => rfl
  | false => cases t <;> rfl

theorem foldWith_eq (h : Handler σ) (s : σ) (e : Expr) :
    e.foldWith h s =
      match e.constant with
      | .ok d => (some d, h.emitAll s (e.diagnostics .constant))
      | .error _ => (none, s) := by
  rw [foldWith, constantWith_eq, Handler.emitAll_collector, List.nil_append]
  cases e.constant <;> rfl

end Expr

/-! ### Constant expressions -/

/-- Whether a predicate compares two literals. -/
def Predicate.isConstant (p : Predicate) : Bool := !p.lhs.isExtractor && !p.rhs.isExtractor

theorem Predicate.isConstant_iff {p : Predicate} :
    p.isConstant ↔ (∃ a, p.lhs = .literal a) ∧ ∃ b, p.rhs = .literal b := by
  obtain ⟨l, op, r⟩ := p
  cases l <;> cases r <;> simp [isConstant, Operand.isExtractor]

theorem Predicate.truths_of_isConstant {p : Predicate} (h : p.isConstant) :
    ∃ b, ∀ input : Input, p.truths input = .ok (List.replicate input.rows (some b)) := by
  obtain ⟨l, op, r⟩ := p
  cases l <;> cases r <;> simp [isConstant, Operand.isExtractor] at h
  case literal.literal a b => exact ⟨a.holds op b, fun _ => rfl⟩

theorem Predicate.truths_of_not_isConstant {p : Predicate} (h : ¬ p.isConstant) :
    ∃ d, d.severity = .error ∧ p.truths .constant = .error d := by
  obtain ⟨l, op, r⟩ := p
  cases l <;> cases r <;> simp [isConstant, Operand.isExtractor] at h <;> exact ⟨_, rfl, rfl⟩

namespace Expr

/-- Whether all predicates compare two literals. -/
def isConstant (e : Expr) : Bool := e.leaves.all (·.isConstant)

variable {e : Expr}

theorem isConstant_group {c : Connective} {es : List Expr} :
    (group c es).isConstant ↔ ∀ e ∈ es, e.isConstant := by
  simp only [isConstant, List.all_eq_true, mem_leaves_group]
  exact ⟨fun h e he p hp => h p ⟨e, he, hp⟩, fun h p ⟨e, he, hp⟩ => h e he p hp⟩

theorem diagnostics_of_isConstant (h : e.isConstant) (input : Input) :
    e.diagnostics input = [] := by
  refine List.filterMap_eq_nil_iff.mpr fun p hp => ?_
  obtain ⟨b, hb⟩ := Predicate.truths_of_isConstant (List.all_eq_true.mp h p hp)
  simp [hb input]

/-- An extractor anywhere is an error without input, since no predicate is skipped. -/
theorem hasError_of_not_isConstant (h : ¬ e.isConstant) : hasError (e.diagnostics .constant) := by
  rw [Bool.not_eq_true, isConstant, List.all_eq_false] at h
  obtain ⟨p, hp, hconstant⟩ := h
  obtain ⟨d, hseverity, hd⟩ := Predicate.truths_of_not_isConstant hconstant
  refine List.any_eq_true.mpr ⟨d, List.mem_filterMap.mpr ⟨p, hp, ?_⟩, by simp [hseverity]⟩
  rw [hd]

theorem groupTruths_of_isConstant {c : Connective} {es : List Expr}
    (h : ∀ e ∈ es, ∃ b, ∀ input : Input, e.truths input = List.replicate input.rows (some b)) :
    ∃ b, ∀ input : Input, groupTruths input c es = List.replicate input.rows (some b) := by
  induction es with
  | nil => cases c <;> exact ⟨_, fun _ => rfl⟩
  | cons e es ih =>
    obtain ⟨b, hb⟩ := h e (by simp)
    obtain ⟨b', hb'⟩ := ih fun f hf => h f (List.mem_cons_of_mem _ hf)
    have hcombine : ∃ r, c.combine (some b) (some b') = some r := by
      cases c <;> cases b <;> cases b' <;> exact ⟨_, rfl⟩
    obtain ⟨r, hr⟩ := hcombine
    exact ⟨r, fun input => by simp [groupTruths, hb, hb', hr]⟩

/-- Each predicate has one truth in all rows of all inputs, and so has what connects them. -/
theorem truths_of_isConstant (h : e.isConstant) :
    ∃ b, ∀ input : Input, e.truths input = List.replicate input.rows (some b) := by
  induction e with
  | empty => exact ⟨false, fun _ => rfl⟩
  | group c children ih =>
    exact groupTruths_of_isConstant fun e he => ih e he (isConstant_group.mp h e he)
  | negation child ih =>
    obtain ⟨b, hb⟩ := ih h
    exact ⟨!b, fun input => by simp [truths, hb, Truth.not]⟩
  | predicate p =>
    have hconstant : p.isConstant := by simpa [isConstant, leaves] using h
    obtain ⟨b, hb⟩ := Predicate.truths_of_isConstant hconstant
    exact ⟨b, fun input => by simp [truths, hb]⟩

theorem constant_of_isConstant (h : e.isConstant) :
    ∃ b, e.constant = .ok (.bool b) ∧ ∀ x : Slice, e.mask x = List.replicate x.rows b := by
  obtain ⟨b, hb⟩ := truths_of_isConstant h
  refine ⟨b, ?_, fun x => ?_⟩
  · have hone : e.truths .constant = [some b] := hb .constant
    rw [constant, diagnostics_of_isConstant h, hone]
    rfl
  · have hrows : e.truths (.slice x) = List.replicate x.rows (some b) := hb (.slice x)
    rw [mask, hrows, List.map_replicate]
    cases b <;> rfl

theorem constant_of_not_isConstant (h : ¬ e.isConstant) : e.constant = .error .failed := by
  rw [constant, if_pos (hasError_of_not_isConstant h)]

/-- An expression has a value without input iff no predicate refers to any. Then nothing is
reported, and the value is true or false and the same in every row of every slice. Otherwise an
error is among what is reported. Folding has the same value, and a failure of it leaves the handler
alone. -/
theorem constant_value_is_that_of_all_rows (h : Handler σ) (s : σ) (e : Expr) :
    ((∃ d, (e.constantWith h s).1 = .ok d) ↔
      ∀ p ∈ e.leaves, (∃ a, p.lhs = .literal a) ∧ ∃ b, p.rhs = .literal b) ∧
    (∀ d, (e.constantWith h s).1 = .ok d →
      (e.constantWith h s).2 = s ∧
      ∃ b, d = .bool b ∧ ∀ x : Slice, e.maskWith h x s = (List.replicate x.rows b, s)) ∧
    (∀ err, (e.constantWith h s).1 = .error err →
      (e.constantWith h s).2 = h.emitAll s (e.diagnostics .constant) ∧
      hasError (e.diagnostics .constant)) ∧
    e.foldWith h s =
      match e.constantWith h s with
      | (.ok d, reported) => (some d, reported)
      | (.error _, _) => (none, s) := by
  have hleaves : e.isConstant ↔
      ∀ p ∈ e.leaves, (∃ a, p.lhs = .literal a) ∧ ∃ b, p.rhs = .literal b := by
    simp only [isConstant, List.all_eq_true, Predicate.isConstant_iff]
  rw [← hleaves, constantWith_eq, foldWith_eq]
  by_cases hconstant : e.isConstant
  · obtain ⟨b, hb, hmask⟩ := constant_of_isConstant hconstant
    have hnone := diagnostics_of_isConstant hconstant
    refine ⟨by simp [hb, hconstant], fun d hd => ?_, fun err herr => ?_, by simp [hb]⟩
    · obtain rfl := Except.ok.inj (hb.symm.trans hd)
      refine ⟨by simp [hnone], b, rfl, fun x => ?_⟩
      rw [maskWith_eq, hmask, hnone, Handler.emitAll_nil]
    · exact nomatch hb.symm.trans herr
  · have herror := constant_of_not_isConstant hconstant
    refine ⟨by simp [herror, hconstant], fun d hd => ?_, fun err _ => ?_, by simp [herror]⟩
    · exact nomatch herror.symm.trans hd
    · exact ⟨rfl, hasError_of_not_isConstant hconstant⟩

/-- One is less than two. -/
def smallOrder : Expr := .predicate ⟨.literal (.int64 1), .less, .literal (.int64 2)⟩

/-- No field can make a difference where something else is true. -/
def orderOrField : Expr :=
  .group .any [smallOrder, .predicate ⟨.extractor (.field "x"), .equal, .literal (.int64 1)⟩]

theorem irrelevant_field_has_no_constant_value :
    let noted : List Diagnostic := [.warning "noted before"]
    smallOrder.constantWith .collector noted = (.ok (.bool true), noted) ∧
    (∀ x : Slice, smallOrder.maskWith .collector x noted = (List.replicate x.rows true, noted)) ∧
    orderOrField.constantWith .collector noted = (.error .failed, noted ++
      [.error "cannot evaluate x without input" ["expected a constant expression"]]) ∧
    orderOrField.foldWith .collector noted = (none, noted) := by
  intro noted
  have hvalue : smallOrder.constantWith .collector noted = (.ok (.bool true), noted) := by rfl
  have hfailure : orderOrField.constantWith .collector noted = (.error .failed, noted ++
      [.error "cannot evaluate x without input" ["expected a constant expression"]]) := by rfl
  obtain ⟨-, hsmall, -⟩ := constant_value_is_that_of_all_rows .collector noted smallOrder
  obtain ⟨-, -, -, hfold⟩ := constant_value_is_that_of_all_rows .collector noted orderOrField
  obtain ⟨-, b, hb, hmask⟩ := hsmall (.bool true) (by rw [hvalue])
  obtain rfl := Data.bool.inj hb
  refine ⟨hvalue, hmask, hfailure, ?_⟩
  rw [hfold, hfailure]

end Expr

end EventFilter
