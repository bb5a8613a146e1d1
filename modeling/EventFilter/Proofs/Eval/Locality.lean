import EventFilter.Proofs.Eval.Rows
import EventFilter.Proofs.Table.Concatenation

/-! Evaluation is local to rows. Whatever the expression, every row has a truth, and the truths of
slices put one after the other are those of the parts put one after the other. -/

namespace EventFilter

namespace Truth

/-- Unknown truths turn false. A result without them is left alone. -/
def folded (ts : List Truth) : List Truth :=
  if ts.any Option.isNone then ts.map fun t => some t.holds else ts

theorem folded_eq_map (ts : List Truth) : folded ts = ts.map fun t => some t.holds := by
  unfold folded
  split
  · rfl
  · rename_i h
    have hknown : ∀ t ∈ ts, some t.holds = id t := by
      intro t ht
      cases t with
      | none => exact absurd (List.any_eq_true.mpr ⟨none, ht, rfl⟩) h
      | some b => simp [holds]
    rw [List.map_congr_left hknown, List.map_id]

end Truth

variable {x y z : Slice}

/-- The truths of the whole are those of the parts, or nothing has truths and the reason is the
same. -/
def JoinsTruths (rx ry rz : Except Diagnostic (List Truth)) : Prop :=
  (∃ ts us, rx = .ok ts ∧ ry = .ok us ∧ rz = .ok (ts ++ us)) ∨
    ∃ d, rx = .error d ∧ ry = .error d ∧ rz = .error d

theorem JoinsTruths.replicate {rx ry rz : Nat} (h : rz = rx + ry) (t : Truth) :
    JoinsTruths (.ok (List.replicate rx t)) (.ok (List.replicate ry t))
      (.ok (List.replicate rz t)) :=
  .inl ⟨_, _, rfl, rfl, by rw [h, List.replicate_append_replicate]⟩

theorem Slice.IsConcat.metadata? (h : x.IsConcat y z) (key : MetaKey) :
    x.metadata? key = z.metadata? key ∧ y.metadata? key = z.metadata? key := by
  cases key with
  | schema | schemaId =>
    exact ⟨by simp [Slice.metadata?, h.schema_left], by simp [Slice.metadata?, ← h.schema_right]⟩
  | importTime =>
    exact ⟨by simp [Slice.metadata?, h.importTime_left],
      by simp [Slice.metadata?, ← h.importTime_right]⟩

theorem Extractor.joinsTruths (h : x.IsConcat y z) (hnulls : z.schema.NullsAreTopLevel)
    (extractor : Extractor) (op : Operator) (d : Data) :
    JoinsTruths (extractor.truths op d (.slice x)) (extractor.truths op d (.slice y))
      (extractor.truths op d (.slice z)) := by
  have hx : x.schema = z.schema := h.schema_left.symm
  have hy : y.schema = z.schema := h.schema_right.symm
  cases extractor with
  | metadata key =>
    obtain ⟨hleft, hright⟩ := h.metadata? key
    simp only [truths, hleft, hright]
    exact .replicate h.rows _
  | data schema o =>
    by_cases hschema : schema = z.schema
    · simp only [truths, hx, hy, hschema, ne_eq, not_true, if_false]
      rcases h.column hnulls o with ⟨err, ha, hb, hc⟩ | ⟨a, b, c, ha, hb, hc, hcells⟩
      · simp only [ha, hb, hc]
        exact .inr ⟨_, rfl, rfl, rfl⟩
      · simp only [ha, hb, hc]
        exact .inl ⟨_, _, rfl, rfl, by rw [Column.test, hcells, List.map_append]; rfl⟩
    · simp only [truths, hx, hy, hschema, ne_eq, not_false_eq_true, if_true]
      exact .inr ⟨_, rfl, rfl, rfl⟩
  | field name | type t =>
    simp only [truths, hx, hy]
    exact .inr ⟨_, rfl, rfl, rfl⟩

theorem Predicate.joinsTruths (h : x.IsConcat y z) (hnulls : z.schema.NullsAreTopLevel)
    (p : Predicate) :
    JoinsTruths (p.truths (.slice x)) (p.truths (.slice y)) (p.truths (.slice z)) := by
  unfold truths
  split
  · exact .replicate h.rows _
  · exact Extractor.joinsTruths h hnulls _ _ _
  · exact .inr ⟨_, rfl, rfl, rfl⟩

namespace Expr

theorem groupTruths_append (h : x.IsConcat y z) (c : Connective) {es : List Expr}
    (hes : ∀ e ∈ es, e.truths (.slice z) = e.truths (.slice x) ++ e.truths (.slice y)) :
    groupTruths (.slice z) c es = groupTruths (.slice x) c es ++ groupTruths (.slice y) c es := by
  induction es with
  | nil => simp [groupTruths, Input.rows, h.rows, ← List.replicate_append_replicate]
  | cons e rest ih =>
    have hhead := hes e (by simp)
    have htail := ih fun f hf => hes f (List.mem_cons_of_mem _ hf)
    have hlen : (e.truths (.slice x)).length = (groupTruths (.slice x) c rest).length :=
      (e.length_truths _).trans ((group c rest).length_truths _).symm
    rw [groupTruths, hhead, htail, List.zipWith_append hlen, groupTruths, groupTruths]

theorem truths_append (h : x.IsConcat y z) (hnulls : z.schema.NullsAreTopLevel) (e : Expr) :
    e.truths (.slice z) = e.truths (.slice x) ++ e.truths (.slice y) := by
  induction e with
  | empty => simp [truths, Input.rows, h.rows, ← List.replicate_append_replicate]
  | group c children ih => exact groupTruths_append h c ih
  | negation child ih => simp [truths, ih]
  | predicate p =>
    rcases p.joinsTruths h hnulls with ⟨ts, us, hx, hy, hz⟩ | ⟨d, hx, hy, hz⟩
    · simp [truths, hx, hy, hz]
    · simp [truths, hx, hy, hz, Input.rows, h.rows, ← List.replicate_append_replicate]

theorem diagnostics_append (h : x.IsConcat y z) (hnulls : z.schema.NullsAreTopLevel) (e : Expr) :
    e.diagnostics (.slice x) = e.diagnostics (.slice z) ∧
      e.diagnostics (.slice y) = e.diagnostics (.slice z) := by
  constructor
  · refine congrArg (List.filterMap · e.leaves) (funext fun p => ?_)
    rcases p.joinsTruths h hnulls with ⟨ts, us, hx, -, hz⟩ | ⟨d, hx, -, hz⟩ <;> simp only [hx, hz]
  · refine congrArg (List.filterMap · e.leaves) (funext fun p => ?_)
    rcases p.joinsTruths h hnulls with ⟨ts, us, -, hy, hz⟩ | ⟨d, -, hy, hz⟩ <;> simp only [hy, hz]

end Expr

def tagSchema : Schema :=
  ⟨"conn", [("user", .record [("id", .scalar .int64)]), ("tags", .list (.scalar .string))], []⟩

def tagSlice (users tags : List Cell) (hsize : users.length = tags.length)
    (husers : ∀ c ∈ users, c.fits (.struct [("id", .int64, true)]))
    (htags : ∀ c ∈ tags, c.fits (.list "item" .utf8 true)) : Slice where
  schema := tagSchema
  batch :=
    { rows := tags.length
      columns := [("user", ⟨.struct [("id", .int64, true)], users⟩),
        ("tags", ⟨.list "item" .utf8 true, tags⟩)]
      rectangular := by simp [Column.size, hsize]
      typed := by simpa using ⟨husers, htags⟩ }
  accepted := by rfl

def taggedSlice : Slice :=
  tagSlice [.record true [.int64 1]] [.list [.string "a"]] rfl (by decide) (by decide)

/-- The record of the first row is missing and hides an id. -/
def hiddenSlice : Slice :=
  tagSlice [.record false [.int64 1], .record true [.int64 2]] [.null, .list [.null]] rfl
    (by decide) (by decide)

/-- Not the first id, or tagged; beside them a name that is bound to no column. -/
def looseExpr : Expr :=
  .group .any
    [.negation (.predicate ⟨.extractor (.data tagSchema [0, 0]), .equal, .literal (.int64 1)⟩),
     .predicate ⟨.extractor (.data tagSchema [1]), .ni, .literal (.string "a")⟩,
     .predicate ⟨.extractor (.field "id"), .equal, .literal (.int64 1)⟩]

end EventFilter
