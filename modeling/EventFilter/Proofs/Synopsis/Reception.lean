import EventFilter.Proofs.Offset.Map
import EventFilter.Proofs.Synopsis.Scan
import EventFilter.Proofs.Table.Columns
import EventFilter.Synopsis.Partition

/-! One slice added to a summary. The summary takes all of it or stays as it was, and whether it does
so depends on what its synopses are for, not on what they have seen. -/

namespace EventFilter.Partition

variable {p : Partition} {x : Slice} {o : Offset} {s : Synopsis} {es : List (Offset × Synopsis)}
  {cs : List Column}

theorem columnsFor_cons_eq_ok (h : columnsFor x ((o, s) :: es) = .ok cs) :
    ∃ c rest, x.column o = .ok c ∧ s.accepts c.layout = .ok () ∧ columnsFor x es = .ok rest ∧
      cs = c :: rest := by
  cases hc : x.column o with
  | error err => simp [columnsFor, hc] at h
  | ok c =>
    cases ha : s.accepts c.layout with
    | error err => simp [columnsFor, hc, ha] at h
    | ok u =>
      cases hrest : columnsFor x es with
      | error err => simp [columnsFor, hc, ha, hrest] at h
      | ok rest =>
        simp only [columnsFor, hc, ha, hrest, Except.ok.injEq] at h
        exact ⟨c, rest, rfl, ha, rfl, h.symm⟩

theorem exists_columnsFor_iff : (∃ cs, columnsFor x es = .ok cs) ↔
    ∀ o s, (o, s) ∈ es → ∃ c, x.column o = .ok c ∧ s.accepts c.layout = .ok () := by
  constructor
  · rintro ⟨cs, h⟩
    induction es generalizing cs with
    | nil => simp
    | cons e es ih =>
      obtain ⟨c, rest, hc, ha, hrest, -⟩ := columnsFor_cons_eq_ok h
      intro o s hs
      rcases List.mem_cons.mp hs with rfl | hs
      · exact ⟨c, hc, ha⟩
      · exact ih rest hrest o s hs
  · intro h
    induction es with
    | nil => exact ⟨[], rfl⟩
    | cons e es ih =>
      obtain ⟨c, hc, ha⟩ := h e.1 e.2 (by simp)
      obtain ⟨rest, hrest⟩ := ih fun o s hs => h o s (List.mem_cons_of_mem _ hs)
      exact ⟨c :: rest, by simp only [columnsFor, hc, ha, hrest]⟩

/-- The cells of a column, none where there is no column. -/
def cellsAt (x : Slice) (o : Offset) : List Cell := ((x.column? o).map (·.cells)).getD []

theorem synopses_absorb (p : Partition) (x : Slice) :
    (p.absorb x).synopses = p.synopses.map fun o s => s.absorb (cellsAt x o) := rfl

/-- After all columns were checked, none of the synopses refuses its own. -/
theorem updateEntries_add (h : columnsFor x es = .ok cs) :
    OffsetMap.updateEntries Synopsis.add es cs =
      (es.map fun e => (e.1, e.2.absorb (cellsAt x e.1)), .ok ()) := by
  induction es generalizing cs with
  | nil => rfl
  | cons e es ih =>
    obtain ⟨o, s⟩ := e
    obtain ⟨c, rest, hc, ha, hrest, rfl⟩ := columnsFor_cons_eq_ok h
    have hcolumn : x.column? o = some c := Slice.column?_of_column hc
    have hadd : s.add c = .ok (s.absorb c.cells) := by simp only [Synopsis.add, ha]
    simp [OffsetMap.updateEntries, hadd, ih hrest, cellsAt, hcolumn]

/-- Why a slice is refused; none if it is taken. -/
def refusal? (p : Partition) (x : Slice) : Option SynopsisError :=
  if x.schema ≠ p.schema then some (.schemaMismatch p.schema.name x.schema.name)
  else
    match columnsFor x p.synopses.entries with
    | .error err => some err
    | .ok _ => none

theorem refusal?_eq_none_iff : p.refusal? x = none ↔ x.schema = p.schema ∧
    ∀ o s, (o, s) ∈ p.synopses.entries →
      ∃ c, x.column o = .ok c ∧ s.accepts c.layout = .ok () := by
  rw [← exists_columnsFor_iff, refusal?]
  by_cases hschema : x.schema = p.schema
  · cases columnsFor x p.synopses.entries <;> simp [hschema]
  · simp [hschema]

theorem receive_eq (p : Partition) (x : Slice) : p.receive x =
    match p.refusal? x with
    | some err => (p, .error err)
    | none => (p.absorb x, .ok ()) := by
  unfold receive refusal?
  by_cases hschema : x.schema ≠ p.schema
  · simp only [if_pos hschema]
  · simp only [if_neg hschema]
    cases hcs : columnsFor x p.synopses.entries with
    | error err => rfl
    | ok cs =>
      have hupdate : p.synopses.update Synopsis.add cs =
          (p.synopses.map fun o s => s.absorb (cellsAt x o), .ok ()) := by
        have hentries := updateEntries_add hcs
        refine Prod.ext (OffsetMap.ext_entries ?_) ?_
        · show (OffsetMap.updateEntries _ _ _).1 = _
          rw [hentries]
          rfl
        · show (OffsetMap.updateEntries _ _ _).2 = _
          rw [hentries]
      simp only [hupdate]
      rfl

theorem receive_of_refusal {err : SynopsisError} (h : p.refusal? x = some err) :
    p.receive x = (p, .error err) := by
  rw [receive_eq, h]

theorem receive_of_refusal_eq_none (h : p.refusal? x = none) :
    p.receive x = (p.absorb x, .ok ()) := by
  rw [receive_eq, h]

theorem isOk_receive (p : Partition) (x : Slice) : (p.receive x).2.isOk = (p.refusal? x).isNone := by
  cases h : p.refusal? x with
  | none => rw [receive_of_refusal_eq_none h]; rfl
  | some err => rw [receive_of_refusal h]; rfl

/-- No synopsis takes a column of nulls alone. -/
def RefusesNulls (p : Partition) : Prop :=
  ∀ o s, (o, s) ∈ p.synopses.entries → ∀ l, s.accepts l = .ok () → l.isNull = false

theorem RefusesNulls.refusal?_eq_none_iff (h : p.RefusesNulls) :
    p.refusal? x = none ↔ x.schema = p.schema ∧ ∀ o s, (o, s) ∈ p.synopses.entries →
      ∃ c, x.column? o = some c ∧ s.accepts c.layout = .ok () := by
  rw [Partition.refusal?_eq_none_iff]
  refine and_congr_right fun _ => forall₃_congr fun o s hs => exists_congr fun c => ?_
  exact and_congr_left fun ha => Slice.column_eq_ok_iff (h o s hs _ ha)

theorem RefusesNulls.absorb (h : p.RefusesNulls) (x : Slice) : (p.absorb x).RefusesNulls := by
  intro o s hs l ha
  obtain ⟨u, hu, rfl⟩ := OffsetMap.mem_entries_map.mp hs
  exact h o u hu l (by rwa [Synopsis.accepts_absorb] at ha)

theorem columnsFor_absorbed (cells : Offset → List Cell) (es : List (Offset × Synopsis)) :
    columnsFor x (es.map fun e => (e.1, e.2.absorb (cells e.1))) = columnsFor x es := by
  induction es with
  | nil => rfl
  | cons e es ih =>
    obtain ⟨o, s⟩ := e
    simp only [List.map_cons, columnsFor, Synopsis.accepts_absorb, ih]

theorem refusal?_absorb (p : Partition) (x y : Slice) : (p.absorb y).refusal? x = p.refusal? x := by
  have hcolumns := columnsFor_absorbed (x := x) (cellsAt y) p.synopses.entries
  show (if x.schema ≠ p.schema then _ else match columnsFor x (p.synopses.entries.map _) with
    | .error err => some err
    | .ok _ => none) = _
  unfold refusal?
  rw [← hcolumns]
  rfl

end EventFilter.Partition
