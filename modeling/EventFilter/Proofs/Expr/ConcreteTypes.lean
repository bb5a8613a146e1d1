import EventFilter.Expr.Validate
import EventFilter.Proofs.DataType.Congruence
import EventFilter.Proofs.Expr.Resolution

/-! Comparisons with all columns of a concrete type. Validation asks whether the type itself admits the
literal, resolution asks each column of the same shape; as shape is all that counts, both find the
same. -/

namespace EventFilter

variable {t : DataType} {op : Operator} {d : Data} {p : Predicate}

/-- The columns that a concrete type stands for are all admitted or all dropped. -/
theorem Extractor.candidates_type (h : t.isReference = false) (s : Schema) (op : Operator) (d : Data) :
    (type t).candidates s op d =
      if t.compatible op d then s.leaves.filter fun leaf => t.congruent leaf.type else [] := by
  have hnamed : (type t).named s = s.leaves.filter fun leaf => t.congruent leaf.type := by
    simp [named, matchesType, h]
  have halike : ∀ leaf ∈ (type t).named s, leaf.type.compatible op d = t.compatible op d := by
    intro leaf hleaf
    rw [hnamed, List.mem_filter] at hleaf
    exact (DataType.compatible_eq_of_congruent hleaf.2 op d).symm
  rw [candidates_eq_filter, List.filter_congr halike, hnamed]
  cases t.compatible op d <;> simp

namespace Predicate

theorem validate_type (h : t.isReference = false) (hform : p.form = .test (.type t) op d) :
    p.validate = .ok () ↔ t.compatible op d := by
  simp [validate, hform, Extractor.validate, h]

theorem resolve_type (s : Schema) (hform : p.form = .test (.type t) op d) :
    p.resolve s =
      .ok (.join (expansion op) (((Extractor.type t).candidates s op d).map (onLeaf s op d))) := by
  simp only [resolve, hform]

theorem leaves_join_onLeaf (c : Connective) (s : Schema) (op : Operator) (d : Data)
    (found : List Leaf) : (Expr.join c (found.map (onLeaf s op d))).leaves =
      found.map fun leaf => ⟨.extractor (.data s leaf.offset), op, .literal d⟩ := by
  rw [Expr.leaves_join, List.flatMap_map, List.map_eq_flatMap]
  rfl

end Predicate

/-- Congruence is an equivalence, and congruent types admit the same comparisons. A comparison with a
concrete type, with its literal on either side, that is invalid resolves to nothing against every
schema; one that is valid is found in each leaf of the same shape, in their order, if there is one. -/
theorem concrete_types_are_judged_alike :
    (Equivalence fun t u : DataType => t.congruent u) ∧
    (∀ t u : DataType, t.congruent u → ∀ (op : Operator) (d : Data),
      t.compatible op d = u.compatible op d) ∧
    ∀ (t : DataType) (op : Operator) (d : Data) (p : Predicate), t.isReference = false →
      (p = ⟨.extractor (.type t), op, .literal d⟩ ∨ p = ⟨.literal d, op.flip, .extractor (.type t)⟩) →
      ∀ s : Schema,
        (p.validate ≠ .ok () → p.resolve s = .ok .empty) ∧
        (p.validate = .ok () → (∃ leaf ∈ s.leaves, t.congruent leaf.type) →
          ∃ r, p.resolve s = .ok r ∧ r ≠ .empty ∧
            r.leaves = (s.leaves.filter fun leaf => t.congruent leaf.type).map fun leaf =>
              ⟨.extractor (.data s leaf.offset), op, .literal d⟩) := by
  refine ⟨DataType.congruent_equivalence, fun t u h => DataType.compatible_eq_of_congruent h, ?_⟩
  intro t op d p hconcrete hp s
  have hform : p.form = .test (.type t) op d := by
    rcases hp with rfl | rfl
    · rfl
    · simp [Predicate.form]
  have hvalid := Predicate.validate_type hconcrete hform
  have hresolve := Predicate.resolve_type s hform
  rw [Extractor.candidates_type hconcrete] at hresolve
  constructor
  · intro hinvalid
    rw [ne_eq, hvalid] at hinvalid
    simpa [hinvalid, Expr.join] using hresolve
  · rintro hok ⟨leaf, hleaf, hshape⟩
    rw [hvalid] at hok
    rw [if_pos hok] at hresolve
    have hfound : leaf ∈ s.leaves.filter fun leaf => t.congruent leaf.type :=
      List.mem_filter.mpr ⟨hleaf, hshape⟩
    refine ⟨_, hresolve, Expr.join_ne_empty ?_ ?_, Predicate.leaves_join_onLeaf ..⟩
    · exact List.ne_nil_of_mem (List.mem_map_of_mem hfound)
    · intro e he
      obtain ⟨leaf, -, rfl⟩ := List.mem_map.mp he
      simp [Predicate.onLeaf]

/-- Two lists of ports under different names, and one of tags. -/
def portsSchema : Schema :=
  ⟨"scan", [("open", .list (.scalar .uint64 { name := some "port" })),
    ("tags", .list (.scalar .string)),
    ("peer", .record [("seen", .list (.scalar .uint64) { attributes := [⟨"index", none⟩] })])], []⟩

def portsPredicate (d : Data) : Predicate :=
  ⟨.literal d, .isIn, .extractor (.type (.list (.scalar .uint64)))⟩

theorem ports_are_searched_in_both_lists :
    (portsPredicate (.int64 22)).validate = .ok () ∧
    (∃ r, (portsPredicate (.int64 22)).resolve portsSchema = .ok r ∧ r ≠ .empty ∧
      r.leaves = [⟨.extractor (.data portsSchema [0]), .ni, .literal (.int64 22)⟩,
        ⟨.extractor (.data portsSchema [2, 0]), .ni, .literal (.int64 22)⟩]) ∧
    (portsPredicate (.string "ssh")).validate ≠ .ok () ∧
    (portsPredicate (.string "ssh")).resolve portsSchema = .ok .empty := by
  obtain ⟨-, -, hjudged⟩ := concrete_types_are_judged_alike
  have hvalid : (portsPredicate (.int64 22)).validate = .ok () := by rfl
  have hinvalid : (portsPredicate (.string "ssh")).validate ≠ .ok () := by
    simp [portsPredicate, Predicate.validate, Predicate.form, Extractor.validate,
      DataType.isReference, DataType.compatible, Operator.flip, DataType.inclusion,
      DataType.equality, DataType.scalarEquality]
  have hleaf : ∃ leaf ∈ portsSchema.leaves,
      (DataType.list (.scalar .uint64)).congruent leaf.type := by
    refine ⟨⟨[0], "open", .list (.scalar .uint64 { name := some "port" })⟩, ?_, rfl⟩
    simp [portsSchema, Schema.leaves, Schema.fieldLeaves, Schema.typeLeaves, Schema.joinKey,
      Offset.child]
  obtain ⟨r, hr, hne, hleaves⟩ :=
    (hjudged _ .ni (.int64 22) _ rfl (.inr rfl) portsSchema).2 hvalid hleaf
  exact ⟨hvalid, ⟨r, hr, hne, hleaves.trans rfl⟩, hinvalid,
    (hjudged _ .ni (.string "ssh") _ rfl (.inr rfl) portsSchema).1 hinvalid⟩

end EventFilter
