import EventFilter.Proofs.Offset.Map
import EventFilter.Proofs.Schema.Leaves
import EventFilter.Proofs.Synopsis.Coverage
import EventFilter.Proofs.Synopsis.Reception

/-! Partitions built slice by slice. Every slice of the schema is accepted, and the summary covers
the import times and the cells of all slices that it was built from. -/

namespace EventFilter.Partition

variable {part : Partition} {x : Slice} {xs : List Slice}

/-- Every column synopsis belongs to a leaf of the schema and suits the leaf's type. -/
def Suits (part : Partition) : Prop :=
  ∀ o s, (o, s) ∈ part.synopses.entries → ∃ leaf ∈ part.schema.leaves,
    leaf.offset = o ∧ s.Suits leaf.type

theorem suits_of_make? {bool time : Bool} {t : DataType} {s : Synopsis}
    (h : (Factory.withSummaries bool time).make? t = some s) : s.Suits t := by
  cases t with
  | scalar k l =>
    cases k <;> cases bool <;> cases time <;>
      simp [Factory.make?, Factory.withSummaries, Factory.register, List.lookup_cons, Summary.empty,
        DataType.kindName, Scalar.name] at h <;>
      subst h <;> rfl
  | _ =>
    cases bool <;> cases time <;>
      simp [Factory.make?, Factory.withSummaries, Factory.register, List.lookup_cons,
        DataType.kindName, Scalar.name] at h

/-- Every synopsis of an empty summary was made for the type of its leaf. -/
theorem exists_leaf_of_mem_start {s : Schema} {f : Factory} {o : Offset} {u : Synopsis}
    (h : (o, u) ∈ (start s f).synopses.entries) :
    ∃ leaf ∈ s.leaves, leaf.offset = o ∧ f.make? leaf.type = some u := by
  revert o u
  refine List.foldlRecOn (motive := fun m : OffsetMap Synopsis => ∀ {o u}, (o, u) ∈ m.entries →
    ∃ leaf ∈ s.leaves, leaf.offset = o ∧ f.make? leaf.type = some u) s.leaves _ ?_ ?_
  · intro o u hu
    simp [OffsetMap.empty] at hu
  · intro m hm leaf hleaf o u hu
    cases hmake : f.make? leaf.type with
    | none => exact hm (by simpa [hmake] using hu)
    | some made =>
      rcases OffsetMap.mem_entries_insert (by simpa [hmake] using hu) with ⟨rfl, rfl⟩ | hu
      · exact ⟨leaf, hleaf, rfl, hmake⟩
      · exact hm hu

theorem suits_start (s : Schema) (bool time : Bool) :
    (start s (.withSummaries bool time)).Suits := by
  intro o u hu
  obtain ⟨leaf, hleaf, ho, hmake⟩ := exists_leaf_of_mem_start hu
  exact ⟨leaf, hleaf, ho, suits_of_make? hmake⟩

theorem Suits.column? (h : part.Suits) (hx : x.schema = part.schema) {o : Offset} {s : Synopsis}
    (hs : (o, s) ∈ part.synopses.entries) :
    ∃ c t, x.column? o = some c ∧ s.Suits t ∧ t.layout.same c.layout := by
  obtain ⟨leaf, hleaf, rfl, hsuits⟩ := h o s hs
  obtain ⟨name, hfield⟩ := Schema.field?_of_mem_leaves (hx ▸ hleaf)
  obtain ⟨c, hc, hsame⟩ := Slice.column?_of_field? hfield
  exact ⟨c, leaf.type, hc, hsuits, hsame⟩

theorem Suits.refusesNulls (h : part.Suits) : part.RefusesNulls := by
  intro o s hs l ha
  obtain ⟨leaf, -, -, hsuits⟩ := h o s hs
  cases s with
  | custom m => exact absurd hsuits id
  | _ => exact Synopsis.isNull_eq_false_of_accepts (by simp) ha

theorem add_eq_ok (h : part.Suits) (hx : x.schema = part.schema) :
    part.add x = .ok (part.absorb x) := by
  have htaken : part.refusal? x = none := by
    refine h.refusesNulls.refusal?_eq_none_iff.mpr ⟨hx, fun o s hs => ?_⟩
    obtain ⟨c, t, hc, hsuits, hsame⟩ := h.column? hx hs
    exact ⟨c, hc, Synopsis.accepts_of_suits hsuits hsame⟩
  rw [add, receive_of_refusal_eq_none htaken]

theorem Suits.absorb (h : part.Suits) (x : Slice) : (part.absorb x).Suits := by
  intro o s hs
  obtain ⟨u, hu, rfl⟩ := OffsetMap.mem_entries_map.mp hs
  obtain ⟨leaf, hleaf, ho, hsuits⟩ := h o u hu
  exact ⟨leaf, hleaf, ho, Synopsis.suits_absorb hsuits _⟩

/-- The import times and the cells of the slices are in the summary. -/
structure Summarizes (part : Partition) (xs : List Slice) : Prop where
  importTimes : ∀ x ∈ xs, ∀ t, x.importTime = some t →
    ∃ low high, part.importTime = some (low, high) ∧ low ≤ t ∧ t ≤ high
  columns : ∀ o s, (o, s) ∈ part.synopses.entries → ∀ x ∈ xs, ∀ c, x.column? o = some c →
    ∀ cell ∈ c.cells, s.Covers cell

theorem summarizes_nil (part : Partition) : part.Summarizes [] := by
  constructor <;> simp

theorem extendRange_self (range : Option (Int64 × Int64)) (t : Int64) :
    (extendRange range t).1 ≤ t ∧ t ≤ (extendRange range t).2 := by
  cases range with
  | none => simp [extendRange]
  | some r =>
    simp only [extendRange, Int64.le_iff_toInt_le, Int64.lt_iff_toInt_lt]
    constructor <;> split <;> omega

theorem extendRange_mono {low high t : Int64} (h : low ≤ t ∧ t ≤ high) (u : Int64) :
    (extendRange (some (low, high)) u).1 ≤ t ∧ t ≤ (extendRange (some (low, high)) u).2 := by
  simp only [extendRange, Int64.le_iff_toInt_le, Int64.lt_iff_toInt_lt] at h ⊢
  constructor <;> split <;> omega

theorem Summarizes.absorb (h : part.Summarizes xs) (hsuits : part.Suits)
    (hx : x.schema = part.schema) : (part.absorb x).Summarizes (xs ++ [x]) := by
  constructor
  · intro y hy t ht
    rcases List.mem_append.mp hy with hy | hy
    · obtain ⟨low, high, hpart, hrange⟩ := h.importTimes y hy t ht
      cases hu : x.importTime with
      | none => exact ⟨low, high, by simp [Partition.absorb, hu, hpart], hrange⟩
      | some u =>
        have hkept := extendRange_mono hrange u
        exact ⟨_, _, by simp only [Partition.absorb, hu, hpart], hkept⟩
    · obtain rfl : y = x := List.mem_singleton.mp hy
      exact ⟨_, _, by simp only [Partition.absorb, ht], extendRange_self part.importTime t⟩
  · intro o s hs y hy c hc cell hcell
    obtain ⟨u, hu, rfl⟩ := OffsetMap.mem_entries_map.mp hs
    obtain ⟨d, type, hd, hut, hsame⟩ := hsuits.column? hx hu
    obtain ⟨hkeep, hself⟩ := Synopsis.covers_absorb hut hsame d.cells
    rw [hd]
    rcases List.mem_append.mp hy with hy | hy
    · exact hkeep cell (h.columns o u hu y hy c hc cell hcell)
    · obtain rfl : y = x := List.mem_singleton.mp hy
      obtain rfl : d = c := Option.some.inj (hd.symm.trans hc)
      exact hself cell hcell (Slice.typed_of_column? hc cell hcell)

/-- Slices of the schema are never refused, and the result summarizes all of them. -/
theorem summarizes_foldlM (hsuits : part.Suits) (h : part.Summarizes xs) (ys : List Slice)
    (hys : ∀ y ∈ ys, y.schema = part.schema) :
    ∃ built, ys.foldlM add part = .ok built ∧ built.schema = part.schema ∧
      built.Summarizes (xs ++ ys) := by
  induction ys generalizing part xs with
  | nil => exact ⟨part, rfl, rfl, by simpa using h⟩
  | cons y ys ih =>
    have hy := hys y (by simp)
    obtain ⟨built, hbuilt, hschema, hsum⟩ := ih (hsuits.absorb y) (h.absorb hsuits hy)
      fun z hz => hys z (List.mem_cons_of_mem _ hz)
    refine ⟨built, ?_, hschema, by simpa using hsum⟩
    rw [List.foldlM_cons, add_eq_ok hsuits hy]
    exact hbuilt

end EventFilter.Partition
