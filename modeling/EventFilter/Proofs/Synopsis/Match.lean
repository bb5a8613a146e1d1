import EventFilter.Proofs.Eval.SchemaMatch
import EventFilter.Proofs.Synopsis.Partition
import EventFilter.Synopsis.Match

/-! The verdict of a summary against the rows of the slices that it summarizes. -/

namespace EventFilter

variable {part : Partition} {xs : List Slice} {x : Slice}

theorem Partition.importTimeMightMatch_sound (h : part.Summarizes xs) (hx : x ∈ xs)
    {op : Operator} {d : Data} (hno : part.importTimeMightMatch op d = false) (t : Int64)
    (ht : x.importTime = some t) : (Data.time t).holds op d = false := by
  obtain ⟨low, high, hrange, hlow, hhigh⟩ := h.importTimes x hx t ht
  have hcovers : (⟨.scalar .time, low, high⟩ : TimeSynopsis).Covers (.time t) := ⟨hlow, hhigh⟩
  have hlookup : (⟨.scalar .time, low, high⟩ : TimeSynopsis).lookup op d = some false := by
    cases hl : (⟨.scalar .time, low, high⟩ : TimeSynopsis).lookup op d with
    | none => simp [importTimeMightMatch, hrange, hl] at hno
    | some b => simpa [importTimeMightMatch, hrange, hl] using hno
  have htest := TimeSynopsis.lookup_sound hcovers hlookup
  rw [Cell.test_time] at htest
  simpa using htest

theorem Partition.lookup_sound (h : part.Summarizes xs) (hx : x ∈ xs) {o : Offset}
    {op : Operator} {d : Data} {c : Column} (hc : x.column? o = some c)
    (hno : ((part.synopses.find? o).bind (·.lookup op d)).getD true = false) :
    ∀ cell ∈ c.cells, cell.test op d ≠ some true := by
  intro cell hcell
  cases hfind : part.synopses.find? o with
  | none => simp [hfind] at hno
  | some s =>
    have hcovers := h.columns o s (OffsetMap.mem_entries_of_find? hfind) x hx c hc cell hcell
    have hlookup : s.lookup op d = some false := by
      cases hl : s.lookup op d with
      | none => simp [hfind, hl] at hno
      | some b => simpa [hfind, hl] using hno
    exact Synopsis.lookup_sound hcovers hlookup

/-- A predicate that a summary rules out is true in no row of a summarized slice. -/
theorem Predicate.mightMatchSynopses_sound (h : part.Summarizes xs) (hx : x ∈ xs)
    (hschema : x.schema = part.schema) {row : Nat} (hrow : row < x.rows) {p : Predicate}
    (hno : p.mightMatchSynopses part = false) : p.truthAt (.slice x) row ≠ some true := by
  unfold mightMatchSynopses at hno
  split at hno
  · rename_i op d hform
    cases ht : x.importTime with
    | none => simp [truthAt, truths, hform, Extractor.truths, Slice.metadata?, ht, Truth.inRow,
        hrow]
    | some t =>
      have hfalse := Partition.importTimeMightMatch_sound h hx hno t ht
      simp [truthAt, truths, hform, Extractor.truths, Slice.metadata?, ht, Truth.inRow, hrow,
        hfalse]
  · rw [truthAt_of_isSchemaTest hrow (isSchemaTest_of_mightMatchSchema_eq_false hno), hschema, hno]
    simp
  · rename_i schema o op d hform
    split at hno
    · rename_i heq
      cases hc : x.column o with
      | error err =>
        simp [truthAt, truths, hform, Extractor.truths, heq, hschema, hc, Truth.inRow]
      | ok c =>
        have hcolumn := Slice.column?_of_column hc
        have hsound := Partition.lookup_sound h hx hcolumn hno
        have hsize : row < c.cells.length := by
          have := Slice.size_of_column? hcolumn
          simp only [Column.size] at this
          omega
        have hcell := hsound c.cells[row] (List.getElem_mem hsize)
        simpa [truthAt, truths, hform, Extractor.truths, heq, hschema, hc, Truth.inRow,
          Column.test, hsize] using hcell
    · simp at hno
  · simp at hno

theorem Expr.mightMatchSynopses_sound (h : part.Summarizes xs) (hx : x ∈ xs)
    (hschema : x.schema = part.schema) {r : Expr} (hpos : r.IsPositive)
    (hno : r.mightMatchSynopses part = false) : true ∉ r.mask x := by
  rw [not_mem_mask_iff]
  intro row hrow
  exact meaning_ne_true_of_mayHold_eq_false hpos
    (fun p _ hp => Predicate.mightMatchSynopses_sound h hx hschema hrow hp) hno

/-- The check of an unresolved expression, too, excludes no row that satisfies it. -/
theorem Expr.mightMatch_sound (h : part.Summarizes xs) (hx : x ∈ xs)
    (hschema : x.schema = part.schema) {e r : Expr} (hproper : e.IsProper) (hpos : e.IsPositive)
    (hr : e.resolve part.schema = .ok r) (hno : e.mightMatch part = .ok false) :
    true ∉ r.mask x := by
  cases hmight : e.mightMatchSchema part.schema with
  | false =>
    rw [← hschema] at hmight hr
    simp [mask_of_mightMatchSchema_eq_false hproper hpos hmight hr]
  | true =>
    have hsynopses : r.mightMatchSynopses part = false := by
      simpa [mightMatch, hmight, hr, Functor.map, Except.map] using hno
    exact mightMatchSynopses_sound h hx hschema (isPositive_resolve hpos hr) hsynopses

end EventFilter
