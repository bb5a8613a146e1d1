import EventFilter.Proofs.Filter.Creation
import EventFilter.Proofs.Synopsis.Match

/-! Partitions that a filter skips hold no row that it selects. -/

namespace EventFilter.Filter

variable {e : Expr} {config : FilterConfig} {f : Filter} {part : Partition} {r : Expr}

theorem mightMatch_of_schema_false (h : e.mightMatchSchema part.schema = false) :
    e.mightMatch part = .ok false := by
  simp [Expr.mightMatch, h]

/-- A new filter excludes no more than the check of its normal form. -/
theorem mightMatch_of_fresh (h : create e config = .ok f)
    (hno : (f.mightMatch part).result = .ok false) : e.normalize.mightMatch part = .ok false := by
  have hcreated := create_eq_ok_iff.mp h
  cases hmight : e.normalize.mightMatchSchema part.schema with
  | false => exact mightMatch_of_schema_false hmight
  | true =>
    have hexpr : f.expr.mightMatchSchema part.schema = true := by rw [hcreated.expr_eq, hmight]
    unfold mightMatch at hno
    split at hno
    · simp at hno
    · simp [hexpr] at hno
    · simp only [hexpr, if_true, result_resolution_of_fresh hcreated.resolved_eq] at hno
      cases hbind : f.bind part.schema with
      | error err => simp [hbind] at hno
      | ok b =>
        have hb := (bind_eq_ok_iff.mp hbind).1
        rw [hcreated.expr_eq] at hb
        have hverdict : b.expr.mightMatchSynopses part = false := by simpa [hbind] using hno
        simp [Expr.mightMatch, hmight, hb, Functor.map, Except.map, hverdict]

/-- Whatever slices of a schema a partition is built from: where the filter or the check of its
normal form excludes the partition, the resolved expression is true in no row of any of them. -/
theorem excluded_partition_has_no_match (h : create e config = .ok f) {s : Schema}
    {slices : List Slice} (hslices : ∀ x ∈ slices, x.schema = s) (bool time : Bool) :
    ∃ part, slices.foldlM Partition.add (Partition.start s (.withSummaries bool time)) = .ok part ∧
      ∀ bound, e.normalize.resolve s = .ok bound →
        (f.mightMatch part).result = .ok false ∨ e.normalize.mightMatch part = .ok false →
        ∀ x ∈ slices, true ∉ bound.mask x := by
  obtain ⟨part, hpart, hschema, hsum⟩ :=
    Partition.summarizes_foldlM (Partition.suits_start s bool time)
      (Partition.summarizes_nil _) slices hslices
  refine ⟨part, hpart, ?_⟩
  intro bound hbound hno x hx
  have hnormal : e.normalize.mightMatch part = .ok false := by
    rcases hno with hno | hno
    · exact mightMatch_of_fresh h hno
    · exact hno
  have hxs : x.schema = part.schema := (hslices x hx).trans hschema.symm
  have hr : e.normalize.resolve part.schema = .ok bound := by rw [hschema]; exact hbound
  exact Expr.mightMatch_sound hsum (by simpa using hx) hxs (isProper_of_create h)
    (Expr.isPositive_normalize e) hr hnormal

def hostSchema : Schema :=
  ⟨"host", [("up", .scalar .bool), ("seen", .scalar .time),
    ("peer", .record [("ok", .scalar .bool)])], []⟩

/-- One batch without an import time. The null peer hides a cell that would match. -/
def hostSlices : List Slice :=
  [{ schema := hostSchema
     batch :=
      { rows := 2
        columns := [("up", ⟨.boolean, [.bool true, .null]⟩),
          ("seen", ⟨.timestamp, [.time 10, .null]⟩),
          ("peer", ⟨.struct [("ok", .boolean, true)],
            [.record true [.bool true], .record false [.bool false]]⟩)]
        rectangular := by decide
        typed := by decide }
     accepted := by decide },
   { schema := hostSchema
     batch :=
      { rows := 1
        columns := [("up", ⟨.boolean, [.bool true]⟩), ("seen", ⟨.timestamp, [.time 20]⟩),
          ("peer", ⟨.struct [("ok", .boolean, true)], [.record true [.null]]⟩)]
        rectangular := by decide
        typed := by decide }
     importTime := some 7
     accepted := by decide }]

def quietExpr : Expr :=
  .negation (.group .all [.predicate ⟨.extractor (.field "up"), .notEqual, .literal (.bool false)⟩,
    .predicate ⟨.literal (.time 10), .lessEqual, .extractor (.field "seen")⟩,
    .negation (.group .any [
      .predicate ⟨.extractor (.field "ok"), .equal, .literal (.bool false)⟩,
      .predicate ⟨.extractor (.metadata .importTime), .greater, .literal (.time 7)⟩])])

def quietFilter : Filter := ⟨{}, quietExpr.normalize, some quietExpr.normalize, []⟩

def hostPartition : Partition :=
  hostSlices.foldl Partition.absorb (.start hostSchema (.withSummaries true true))

theorem quiet_hosts_are_skipped : create quietExpr {} = .ok quietFilter ∧
    (∀ x ∈ hostSlices, x.schema = hostSchema) ∧
    (quietFilter.mightMatch hostPartition).result = .ok false ∧
    ∃ bound, quietExpr.normalize.resolve hostSchema = .ok bound ∧
      ∀ x ∈ hostSlices, true ∉ bound.mask x := by
  have hcreate : create quietExpr {} = .ok quietFilter := by rfl
  have hslices : ∀ x ∈ hostSlices, x.schema = hostSchema := by decide +kernel
  have hverdict : (quietFilter.mightMatch hostPartition).result = .ok false := by rfl
  obtain ⟨part, hpart, hmatch⟩ := excluded_partition_has_no_match hcreate hslices true true
  have hbuilt : hostSlices.foldlM Partition.add (.start hostSchema (.withSummaries true true)) =
      .ok hostPartition := by rfl
  obtain rfl : part = hostPartition := Except.ok.inj (hpart.symm.trans hbuilt)
  exact ⟨hcreate, hslices, hverdict, _, rfl, hmatch _ rfl (.inl hverdict)⟩

end EventFilter.Filter
