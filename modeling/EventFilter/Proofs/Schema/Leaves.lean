import EventFilter.Schema.Basic

/-! The leaves of a schema. They are what is no record at the end of a path, their keys are made of
the names along it, and they stand in the order of their offsets. -/

namespace EventFilter

/-- Two paths stand in the order of the first positions at which they differ. -/
theorem Offset.before_of_lt {i j : Nat} (h : i < j) (o a b : Offset) :
    Offset.before (o ++ i :: a) (o ++ j :: b) := by
  rw [before_iff, orderKey, orderKey, OrderKey.compare]
  induction o with
  | nil =>
    have hint : Ord.compare (i : Int) j = .lt := Std.compare_eq_lt.mpr (by omega)
    simp [OrderKey.compareAll, OrderKey.compare, hint]
  | cons k o ih =>
    have hself : Ord.compare (k : Int) k = .eq := Std.compare_self
    simpa only [List.cons_append, List.map_cons, OrderKey.compareAll, OrderKey.compare, hself,
      Ordering.eq_then] using ih

namespace DataType

/-- The names of the fields along a path and the type at its end. -/
def descend? : DataType → Offset → Option (List String × DataType)
  | t, [] => some ([], t)
  | .record fs _, i :: path => do
    let (name, t) ← fs[i]?
    let (names, u) ← t.descend? path
    return (name :: names, u)
  | _, _ :: _ => none

@[simp] theorem descend?_nil (t : DataType) : t.descend? [] = some ([], t) := by
  cases t <;> rfl

theorem descend?_cons_eq_some_iff {fs : List Field} {a : Label} {i : Nat} {path : Offset}
    {names : List String} {u : DataType} :
    (record fs a).descend? (i :: path) = some (names, u) ↔
      ∃ name rest t, fs[i]? = some (name, t) ∧ t.descend? path = some (rest, u) ∧
        names = name :: rest := by
  simp only [descend?, Option.bind_eq_bind, Option.bind_eq_some_iff, Option.pure_def,
    Option.some.injEq, Prod.mk.injEq, Prod.exists]
  constructor
  · rintro ⟨name, t, hfield, rest, v, hpath, rfl, rfl⟩
    exact ⟨name, rest, t, hfield, hpath, rfl⟩
  · rintro ⟨name, rest, t, hfield, hpath, rfl⟩
    exact ⟨name, t, hfield, rest, u, hpath, rfl, rfl⟩

theorem descend?_cons_of_not_record {t : DataType} (h : t.isRecord = false) (i : Nat)
    (path : Offset) : t.descend? (i :: path) = none := by
  cases t with
  | record => simp [isRecord, fields?] at h
  | scalar => rfl
  | list => rfl

end DataType

namespace Schema

open DataType

theorem fieldAt?_of_descend? {fs : List Field} {a : Label} {path : Offset} {names : List String}
    {t : DataType} (h : (record fs a).descend? path = some (names, t)) (hpath : path ≠ []) :
    ∃ name, fieldAt? fs path = some (name, t) := by
  induction path generalizing fs a names with
  | nil => exact absurd rfl hpath
  | cons i path ih =>
    obtain ⟨name, rest, u, hfield, hrest, -⟩ := descend?_cons_eq_some_iff.mp h
    cases path with
    | nil =>
      obtain ⟨rfl, rfl⟩ : [] = rest ∧ u = t := by simpa using hrest
      exact ⟨name, by simpa [fieldAt?] using hfield⟩
    | cons j path =>
      cases u with
      | record inner b =>
        obtain ⟨last, hlast⟩ := ih hrest (by simp)
        exact ⟨last, by simpa [fieldAt?, hfield] using hlast⟩
      | scalar => simp [descend?] at hrest
      | list => simp [descend?] at hrest

theorem exists_descend?_of_fieldAt? {fs : List Field} {o : Offset} {name : String}
    {t : DataType} (a : Label) (h : fieldAt? fs o = some (name, t)) :
    ∃ names, (record fs a).descend? o = some (names, t) := by
  induction o generalizing fs a with
  | nil => simp [fieldAt?] at h
  | cons i path ih =>
    cases path with
    | nil =>
      have hfield : fs[i]? = some (name, t) := by simpa [fieldAt?] using h
      exact ⟨[name], descend?_cons_eq_some_iff.mpr ⟨name, [], t, hfield, by simp, rfl⟩⟩
    | cons j path =>
      cases hfield : fs[i]? with
      | none => simp [fieldAt?, hfield] at h
      | some f =>
        obtain ⟨n, u⟩ := f
        cases u with
        | record inner b =>
          obtain ⟨names, hpath⟩ := ih b (by simpa [fieldAt?, hfield] using h)
          exact ⟨n :: names, descend?_cons_eq_some_iff.mpr ⟨n, names, _, hfield, hpath, rfl⟩⟩
        | scalar k b => simp [fieldAt?, hfield] at h
        | list u b => simp [fieldAt?, hfield] at h

theorem eq_leaf_iff {t : DataType} (ht : t.isRecord = false) {o : Offset} {key : String}
    {leaf : Leaf} : leaf = ⟨o, key, t⟩ ↔ ∃ path names, leaf.offset = o ++ path ∧
      leaf.key = names.foldl joinKey key ∧ t.descend? path = some (names, leaf.type) ∧
      leaf.type.isRecord = false := by
  constructor
  · rintro rfl
    exact ⟨[], [], by simp, rfl, by simp, ht⟩
  · rintro ⟨path, names, ho, hkey, hpath, -⟩
    cases path with
    | cons i path => simp [descend?_cons_of_not_record ht] at hpath
    | nil =>
      obtain ⟨rfl, rfl⟩ : [] = names ∧ t = leaf.type := by simpa using hpath
      cases leaf
      simpa using And.intro ho hkey

mutual

theorem mem_typeLeaves_iff : (t : DataType) → (o : Offset) → (key : String) → (leaf : Leaf) →
    (leaf ∈ typeLeaves o key t ↔ ∃ path names, leaf.offset = o ++ path ∧
      leaf.key = names.foldl joinKey key ∧ t.descend? path = some (names, leaf.type) ∧
      leaf.type.isRecord = false)
  | .scalar k a, o, key, leaf => by
    rw [typeLeaves, List.mem_singleton]
    exact eq_leaf_iff rfl
  | .list t a, o, key, leaf => by
    rw [typeLeaves, List.mem_singleton]
    exact eq_leaf_iff rfl
  | .record fs a, o, key, leaf => by
    rw [typeLeaves, mem_fieldLeaves_iff fs]
    constructor
    · rintro ⟨j, path, name, names, t, hfield, ho, hkey, hpath, hleaf⟩
      refine ⟨j :: path, name :: names, by simpa using ho, hkey, ?_, hleaf⟩
      exact descend?_cons_eq_some_iff.mpr ⟨name, names, t, hfield, hpath, rfl⟩
    · rintro ⟨path, names, ho, hkey, hpath, hleaf⟩
      cases path with
      | nil =>
        obtain ⟨-, ht⟩ : [] = names ∧ record fs a = leaf.type := by simpa using hpath
        simp [← ht, isRecord, fields?] at hleaf
      | cons j path =>
        obtain ⟨name, rest, t, hfield, hrest, rfl⟩ := descend?_cons_eq_some_iff.mp hpath
        exact ⟨j, path, name, rest, t, hfield, by simpa using ho, hkey, hrest, hleaf⟩

theorem mem_fieldLeaves_iff : (fs : List Field) → (o : Offset) → (key : String) → (i : Nat) →
    (leaf : Leaf) → (leaf ∈ fieldLeaves o key i fs ↔ ∃ j path name names t,
      fs[j]? = some (name, t) ∧ leaf.offset = o ++ (i + j) :: path ∧
      leaf.key = names.foldl joinKey (joinKey key name) ∧
      t.descend? path = some (names, leaf.type) ∧ leaf.type.isRecord = false)
  | [], o, key, i, leaf => by simp [fieldLeaves]
  | (name, t) :: fs, o, key, i, leaf => by
    rw [fieldLeaves, List.mem_append, mem_typeLeaves_iff t, mem_fieldLeaves_iff fs]
    constructor
    · rintro (⟨path, names, ho, h⟩ | ⟨j, path, n, names, u, hfield, ho, h⟩)
      · exact ⟨0, path, name, names, t, rfl, by simpa [Offset.child] using ho, h⟩
      · refine ⟨j + 1, path, n, names, u, hfield, ?_, h⟩
        rw [ho, show i + 1 + j = i + (j + 1) by omega]
    · rintro ⟨j, path, n, names, u, hfield, ho, h⟩
      cases j with
      | zero =>
        obtain ⟨rfl, rfl⟩ : name = n ∧ t = u := by simpa using hfield
        exact .inl ⟨path, names, by simpa [Offset.child] using ho, h⟩
      | succ j =>
        refine .inr ⟨j, path, n, names, u, hfield, ?_, h⟩
        rw [ho, show i + 1 + j = i + (j + 1) by omega]

end

theorem mem_leaves_iff {s : Schema} {leaf : Leaf} :
    leaf ∈ s.leaves ↔ ∃ names, s.toType.descend? leaf.offset = some (names, leaf.type) ∧
      leaf.key = names.foldl joinKey "" ∧ leaf.type.isRecord = false := by
  have hmem := mem_typeLeaves_iff s.toType [] "" leaf
  rw [toType, typeLeaves] at hmem
  rw [leaves, hmem]
  constructor
  · rintro ⟨path, names, rfl, hkey, hpath, hleaf⟩
    exact ⟨names, hpath, hkey, hleaf⟩
  · rintro ⟨names, hpath, hkey, hleaf⟩
    exact ⟨leaf.offset, names, rfl, hkey, hpath, hleaf⟩

theorem field?_of_mem_leaves {s : Schema} {leaf : Leaf} (h : leaf ∈ s.leaves) :
    ∃ name, s.field? leaf.offset = some (name, leaf.type) := by
  obtain ⟨names, hpath, -, hleaf⟩ := mem_leaves_iff.mp h
  apply fieldAt?_of_descend? hpath
  intro hroot
  obtain ⟨-, htype⟩ : [] = names ∧ s.toType = leaf.type := by simpa [hroot] using hpath
  simp [← htype, toType, isRecord, fields?] at hleaf

/-! ### Order -/

mutual

theorem pairwise_typeLeaves : (t : DataType) → (o : Offset) → (key : String) →
    (typeLeaves o key t).Pairwise fun a b => a.offset.before b.offset
  | .scalar _ _, o, key => by simp [typeLeaves]
  | .list _ _, o, key => by simp [typeLeaves]
  | .record fs _, o, key => pairwise_fieldLeaves fs o key 0

theorem pairwise_fieldLeaves : (fs : List Field) → (o : Offset) → (key : String) → (i : Nat) →
    (fieldLeaves o key i fs).Pairwise fun a b => a.offset.before b.offset
  | [], o, key, i => by simp [fieldLeaves]
  | (name, t) :: fs, o, key, i => by
    have hhead := pairwise_typeLeaves t (o.child i) (joinKey key name)
    have htail := pairwise_fieldLeaves fs o key (i + 1)
    rw [fieldLeaves]
    refine List.pairwise_append.mpr ⟨hhead, htail, ?_⟩
    intro a ha b hb
    obtain ⟨path, -, hao, -⟩ := (mem_typeLeaves_iff t _ _ a).mp ha
    obtain ⟨j, rest, -, -, -, -, hbo, -⟩ := (mem_fieldLeaves_iff fs _ _ _ b).mp hb
    have hchild : a.offset = o ++ i :: path := by simpa [Offset.child] using hao
    rw [hchild, hbo]
    exact Offset.before_of_lt (by omega) o path rest

end

theorem pairwise_leaves (s : Schema) :
    s.leaves.Pairwise fun a b => a.offset.before b.offset :=
  pairwise_fieldLeaves s.fields [] "" 0

end Schema

end EventFilter
