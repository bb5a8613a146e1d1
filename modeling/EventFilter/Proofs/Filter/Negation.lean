import EventFilter.Proofs.Eval.Negation
import EventFilter.Proofs.Filter.Calls

/-! A filter against the filter of the negated expression. If the one is accepted so is the other,
and they select no row together but those that an ordering of an ambiguous name straddles. -/

namespace EventFilter.Filter

variable {e : Expr} {f : Filter} {x : Slice} {a : Evaluation} {row : Nat}

theorem exists_create_negation (h : create e {} = .ok f) :
    ∃ g, create (.negation e) {} = .ok g := by
  have hsound : e.IsSound := exists_create_iff.mp ⟨f, h⟩
  exact exists_create_iff.mpr (Expr.isSound_negation.mpr hsound)

theorem exists_resolve_of_selected (h : create e {} = .ok f)
    (ha : (f.evaluate x).result = .ok a) (hrow : a.mask[row]? = some true) :
    ∃ r, e.normalize.resolve x.schema = .ok r ∧
      r.meaning (Predicate.truthAt (.slice x) row) = some true := by
  have hmeets := call_meets_pipeline h rfl (.evaluate x)
  simp only [call, ha, Answer.Meets] at hmeets
  cases hr : e.normalize.resolve x.schema with
  | ok r =>
    rw [hr] at hmeets
    obtain ⟨b, hb, hmask⟩ := hmeets
    obtain rfl : a = b := Except.ok.inj hb
    rw [hmask, Expr.mask_eq_map, List.getElem?_map, Option.map_eq_some_iff] at hrow
    obtain ⟨i, hi, htrue⟩ := hrow
    obtain ⟨hlt, rfl⟩ := List.getElem?_eq_some_iff.mp hi
    exact ⟨r, rfl, by simpa [Truth.holds] using htrue⟩
  | error err =>
    rw [hr] at hmeets
    rcases hmeets with herr | ⟨-, b, hb, hmask⟩
    · cases herr
    · obtain rfl : a = b := Except.ok.inj hb
      rw [hmask] at hrow
      simpa using List.getElem?_eq_some_iff.mp hrow

/-- The filter of the negation is accepted too. Together they select no row, unless it is straddled by
an ordering of a name that stands for several columns. -/
theorem opposite_filters_share_no_row (hf : create e {} = .ok f) :
    ∃ g, create (.negation e) {} = .ok g ∧ ∀ (x : Slice) (a b : Evaluation),
      (f.evaluate x).result = .ok a → (g.evaluate x).result = .ok b →
      ∀ row, (∀ p ∈ e.leaves, p.straddles x row = false) →
        ¬ (a.mask[row]? = some true ∧ b.mask[row]? = some true) := by
  obtain ⟨g, hg⟩ := exists_create_negation hf
  refine ⟨g, hg, fun x a b ha hb row hside => ?_⟩
  rintro ⟨hrow, hrow'⟩
  obtain ⟨r, hr, htrue⟩ := exists_resolve_of_selected hf ha hrow
  obtain ⟨q, hq, htrue'⟩ := exists_resolve_of_selected hg hb hrow'
  rw [Expr.normalize_negation] at hq
  have hleaves : ∀ p ∈ e.normalize.leaves, p.straddles x row = false := by
    intro p hp
    obtain ⟨l, hl, rfl | rfl⟩ := Expr.mem_leaves_normalize hp
    · rw [Predicate.straddles_aligned, hside l hl]
    · rw [Predicate.straddles_aligned, Predicate.straddles_negated, hside l hl]
  have hopposed := Expr.opposed_resolve_denegate (Expr.isPositive_normalize e) hleaves hr hq
  exact hopposed.not_both htrue htrue'

/-- Links between two ports, which share their name. -/
def linkSchema : Schema :=
  let endpoint := DataType.record [("port", .scalar .uint64)]
  ⟨"link", [("source", endpoint), ("target", endpoint)], []⟩

/-- From port 80 to 443, and from port 80 to 50000. -/
def linkSlice : Slice where
  schema := linkSchema
  batch :=
    let port (n : UInt64) := Cell.record true [.uint64 n]
    { rows := 2
      columns := [("source", ⟨.struct [("port", .uint64, true)], [port 80, port 80]⟩),
        ("target", ⟨.struct [("port", .uint64, true)], [port 443, port 50000]⟩)]
      rectangular := by decide
      typed := by decide }
  accepted := by decide

/-- No port is 22, and some port is below 1024. -/
def linkExpr : Expr :=
  let port := Operand.extractor (.field "port")
  .group .all [.predicate ⟨port, .notEqual, .literal (.uint64 22)⟩,
    .predicate ⟨port, .less, .literal (.uint64 1024)⟩]

def filterOf (e : Expr) : Filter := ⟨{}, e.normalize, some e.normalize, []⟩

theorem near_ports_are_not_selected_twice :
    create linkExpr {} = .ok (filterOf linkExpr) ∧
      ((filterOf linkExpr).evaluate linkSlice).result = .ok ⟨[true, true], []⟩ ∧
      (∀ p ∈ linkExpr.leaves, p.straddles linkSlice 0 = false) ∧
      ∃ g b, create (.negation linkExpr) {} = .ok g ∧ (g.evaluate linkSlice).result = .ok b ∧
        b.mask[0]? ≠ some true := by
  have hcreate : create linkExpr {} = .ok (filterOf linkExpr) := by rfl
  have hevaluate : ((filterOf linkExpr).evaluate linkSlice).result = .ok ⟨[true, true], []⟩ := by
    rfl
  have hside : ∀ p ∈ linkExpr.leaves, p.straddles linkSlice 0 = false := by decide +kernel
  obtain ⟨g, hg, hdisjoint⟩ := opposite_filters_share_no_row hcreate
  have hnegation : create (.negation linkExpr) {} = .ok (filterOf (.negation linkExpr)) := by rfl
  obtain rfl : filterOf (.negation linkExpr) = g := Except.ok.inj (hnegation.symm.trans hg)
  have hresult : ((filterOf (.negation linkExpr)).evaluate linkSlice).result =
      .ok ⟨[false, true], []⟩ := by rfl
  exact ⟨hcreate, hevaluate, hside, _, _, hg, hresult,
    fun h => hdisjoint linkSlice _ _ hevaluate hresult 0 hside ⟨rfl, h⟩⟩

/-- In the second row one port is below 1024 and one is not, so that both filters select it. -/
theorem far_ports_are_selected_twice :
    create linkExpr {} = .ok (filterOf linkExpr) ∧
      create (.negation linkExpr) {} = .ok (filterOf (.negation linkExpr)) ∧
      ((filterOf linkExpr).evaluate linkSlice).result = .ok ⟨[true, true], []⟩ ∧
      ((filterOf (.negation linkExpr)).evaluate linkSlice).result = .ok ⟨[false, true], []⟩ := by
  exact ⟨rfl, rfl, rfl, rfl⟩

end EventFilter.Filter
