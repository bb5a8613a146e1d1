import EventFilter.Proofs.Eval.NormalForm
import EventFilter.Proofs.Expr.Alignment
import EventFilter.Synopsis.Match

/-! The order of operands against everything that is done with an expression. Validity, resolution,
verdicts, truths and diagnostics are the same on both sides of an alignment. -/

namespace EventFilter

namespace Predicate

theorem mightMatchSchema_aligned (s : Schema) (p : Predicate) :
    p.aligned.mightMatchSchema s = p.mightMatchSchema s := by
  rw [mightMatchSchema, form_aligned, mightMatchSchema]

theorem mightMatchSynopses_aligned (part : Partition) (p : Predicate) :
    p.aligned.mightMatchSynopses part = p.mightMatchSynopses part := by
  rw [mightMatchSynopses, form_aligned, mightMatchSchema_aligned, mightMatchSynopses]

end Predicate

namespace Expr

theorem truths_align (input : Input) (e : Expr) : e.align.truths input = e.truths input := by
  rw [truths_eq_map, truths_eq_map]
  refine List.map_congr_left fun row _ => ?_
  exact meaning_align (Predicate.truthAt_aligned input row) e

theorem diagnostics_align (input : Input) (e : Expr) :
    e.align.diagnostics input = e.diagnostics input := by
  simp only [diagnostics, leaves_align, List.filterMap_map, Function.comp_def,
    Predicate.truths_aligned]

theorem constant_align (e : Expr) : e.align.constant = e.constant := by
  rw [constant, diagnostics_align, truths_align, constant]

theorem mightMatchSchema_align (s : Schema) (e : Expr) :
    e.align.mightMatchSchema s = e.mightMatchSchema s :=
  mayHold_align (Predicate.mightMatchSchema_aligned s) false e

theorem mightMatchSynopses_align (part : Partition) (e : Expr) :
    e.align.mightMatchSynopses part = e.mightMatchSynopses part :=
  mayHold_align (Predicate.mightMatchSynopses_aligned part) false e

theorem mightMatch_align (part : Partition) (e : Expr) :
    e.align.mightMatch part = e.mightMatch part := by
  rw [mightMatch, mightMatchSchema_align, resolve_align, mightMatch]
  cases e.resolve part.schema with
  | error err => rfl
  | ok r => simp only [Functor.map, Except.map, mightMatchSynopses_align]

/-- On which side of an extractor a literal was written makes no difference: to validity and its
error, to the binding to a schema and its events, to the verdicts of schemas and summaries, to the
rows of a slice, to the value without input, or to any diagnostics. -/
theorem operand_order_is_invisible (e : Expr) :
    e.align.validate = e.validate ∧
      (∀ s, e.align.resolve s = (e.resolve s).map align ∧
        e.align.resolveEvents s = e.resolveEvents s ∧
        e.align.mightMatchSchema s = e.mightMatchSchema s) ∧
      (∀ part, e.align.mightMatchSynopses part = e.mightMatchSynopses part ∧
        e.align.mightMatch part = e.mightMatch part) ∧
      (∀ x, e.align.mask x = e.mask x ∧
        e.align.diagnostics (.slice x) = e.diagnostics (.slice x)) ∧
      e.align.constant = e.constant ∧
      e.align.diagnostics .constant = e.diagnostics .constant ∧
      e.align.fold? = e.fold? := by
  refine ⟨validate_align e, fun s => ?_, fun part => ?_, fun x => ?_, constant_align e,
    diagnostics_align .constant e, ?_⟩
  · exact ⟨resolve_align s e, resolveEvents_align s e, mightMatchSchema_align s e⟩
  · exact ⟨mightMatchSynopses_align part e, mightMatch_align part e⟩
  · exact ⟨by rw [mask, truths_align, mask], diagnostics_align (.slice x) e⟩
  · rw [fold?, constant_align, diagnostics_align, fold?]

end Expr

end EventFilter
