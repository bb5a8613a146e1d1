import EventFilter.Proofs.Schema.Names
import EventFilter.Selector

/-! Selectors against the leaves of a schema. Where sibling fields have different names, a selector
leads to the offset along which its segments are the names; the key of a leaf, read as a selector,
leads back to the leaf. -/

namespace EventFilter

namespace Schema

mutual

/-- Whether the fields of every record on a path have different names. -/
def hasDistinctNames : DataType → Bool
  | .record fs _ => decide (fs.map (·.1)).Nodup && haveDistinctNames fs
  | _ => true

def haveDistinctNames : List Field → Bool
  | [] => true
  | (_, t) :: fs => hasDistinctNames t && haveDistinctNames fs

end

theorem hasDistinctNames_of_getElem? {fs : List Field} (h : haveDistinctNames fs) {i : Nat}
    {name : String} {t : DataType} (hfield : fs[i]? = some (name, t)) : hasDistinctNames t := by
  induction fs generalizing i with
  | nil => simp at hfield
  | cons f fs ih =>
    obtain ⟨n, u⟩ := f
    simp only [haveDistinctNames, Bool.and_eq_true] at h
    cases i with
    | zero =>
      obtain ⟨-, rfl⟩ : n = name ∧ u = t := by simpa using hfield
      exact h.1
    | succ i => exact ih h.2 (by simpa using hfield)

end Schema

open Schema

namespace Selector

variable {fs : List Field} {name field shown whole : String} {i : Nat} {t u : DataType}
  {o : Offset} {path front back : List String}

/-! ### Positions of names -/

theorem position?_eq_none_iff : position? name fs = none ↔ name ∉ fs.map (·.1) := by
  induction fs with
  | nil => simp [position?]
  | cons f fs ih =>
    obtain ⟨n, u⟩ := f
    by_cases hn : n = name
    · simp [position?, hn]
    · simp [position?, hn, ih, Ne.symm hn]

theorem getElem?_of_position? (h : position? name fs = some (i, t)) : fs[i]? = some (name, t) := by
  induction fs generalizing i with
  | nil => simp [position?] at h
  | cons f fs ih =>
    obtain ⟨n, u⟩ := f
    by_cases hn : n = name
    · obtain ⟨rfl, rfl⟩ : 0 = i ∧ u = t := by simpa [position?, hn] using h
      simp [hn]
    · simp only [position?, hn, if_false, Option.map_eq_some_iff, Prod.mk.injEq] at h
      obtain ⟨⟨j, v⟩, hj, rfl, rfl⟩ := h
      simpa using ih hj

theorem position?_of_getElem? (hdistinct : (fs.map (·.1)).Nodup) (h : fs[i]? = some (name, t)) :
    position? name fs = some (i, t) := by
  induction fs generalizing i with
  | nil => simp at h
  | cons f fs ih =>
    obtain ⟨n, u⟩ := f
    obtain ⟨hfirst, hrest⟩ := List.nodup_cons.mp hdistinct
    cases i with
    | zero =>
      obtain ⟨rfl, rfl⟩ : n = name ∧ u = t := by simpa using h
      simp [position?]
    | succ i =>
      have hin : fs[i]? = some (name, t) := by simpa using h
      have hn : n ≠ name := by
        rintro rfl
        exact hfirst (List.mem_map.mpr ⟨_, List.mem_of_getElem? hin, rfl⟩)
      simp [position?, hn, ih hrest hin]

/-! ### Walks -/

/-- What a path of names may come to: the field at its end, a segment behind a field that is no
record, or one that the record before it does not have. -/
def Meets (whole : String) (t : DataType) (path : List String) :
    Except SelectorError Offset → Prop
  | .ok o => ∃ u, t.descend? o = some (path, u)
  | .error (.fieldOfNonRecord field actual) => ∃ front back o u, path = front ++ field :: back ∧
      t.descend? o = some (front, u) ∧ u.isRecord = false ∧ actual = u.text
  | .error (.fieldNotFound field shown) => shown = whole ∧ ∃ front back o fs label,
      path = front ++ field :: back ∧ t.descend? o = some (front, .record fs label) ∧
        field ∉ fs.map (·.1)
  | .error (.invalid _) => False

theorem Meets.cons {label : Label} (hfield : fs[i]? = some (name, t))
    {r : Except SelectorError Offset} (h : Meets whole t path r) :
    Meets whole (.record fs label) (name :: path) ((i :: ·) <$> r) := by
  have hstep {o : Offset} {names : List String} {u : DataType}
      (hpath : t.descend? o = some (names, u)) :
      (DataType.record fs label).descend? (i :: o) = some (name :: names, u) :=
    DataType.descend?_cons_eq_some_iff.mpr ⟨name, names, t, hfield, hpath, rfl⟩
  match r with
  | .ok o =>
    obtain ⟨u, hpath⟩ := h
    exact ⟨u, hstep hpath⟩
  | .error (.fieldOfNonRecord ..) =>
    obtain ⟨front, back, o, u, rfl, hpath, hu⟩ := h
    exact ⟨name :: front, back, i :: o, u, rfl, hstep hpath, hu⟩
  | .error (.fieldNotFound ..) =>
    obtain ⟨hwhole, front, back, o, gs, a, rfl, hpath, hmissing⟩ := h
    exact ⟨hwhole, name :: front, back, i :: o, gs, a, rfl, hstep hpath, hmissing⟩

theorem meets_walk (whole : String) (path : List String) (t : DataType) :
    Meets whole t path (walk whole path t) := by
  induction path generalizing t with
  | nil => exact ⟨t, DataType.descend?_nil t⟩
  | cons name rest ih =>
    cases t with
    | record fs label =>
      simp only [walk, DataType.fields?]
      cases hposition : position? name fs with
      | none =>
        have hmissing : name ∉ fs.map (·.1) := position?_eq_none_iff.mp hposition
        exact ⟨rfl, [], rest, [], fs, label, rfl, by simp, hmissing⟩
      | some found =>
        obtain ⟨i, u⟩ := found
        exact (ih u).cons (getElem?_of_position? hposition)
    | scalar k a => exact ⟨[], rest, [], .scalar k a, rfl, by simp, rfl, rfl⟩
    | list u a => exact ⟨[], rest, [], .list u a, rfl, by simp, rfl, rfl⟩

/-- With different names, the walk keeps to the fields along an offset. -/
theorem walk_append (hdistinct : hasDistinctNames t) (hpath : t.descend? o = some (front, u))
    (whole : String) (back : List String) :
    walk whole (front ++ back) t = (o ++ ·) <$> walk whole back u := by
  induction o generalizing t front with
  | nil =>
    obtain ⟨rfl, rfl⟩ : [] = front ∧ t = u := by simpa using hpath
    simp
  | cons i o ih =>
    cases t with
    | record fs a =>
      obtain ⟨name, rest, v, hfield, hrest, rfl⟩ := DataType.descend?_cons_eq_some_iff.mp hpath
      obtain ⟨hnames, hinner⟩ : (fs.map (·.1)).Nodup ∧ haveDistinctNames fs := by
        simpa [hasDistinctNames] using hdistinct
      have hwalk := ih (hasDistinctNames_of_getElem? hinner hfield) hrest
      simp only [List.cons_append, walk, DataType.fields?, position?_of_getElem? hnames hfield,
        hwalk, Functor.map_map]
    | scalar k a => simp [DataType.descend?] at hpath
    | list v a => simp [DataType.descend?] at hpath

theorem walk_eq_iff (hdistinct : hasDistinctNames t) {r : Except SelectorError Offset} :
    walk whole path t = r ↔ Meets whole t path r := by
  constructor
  · rintro rfl
    exact meets_walk whole path t
  · intro h
    match r with
    | .ok o =>
      obtain ⟨u, hpath⟩ := h
      have hwalk := walk_append hdistinct hpath whole []
      simpa [walk, Functor.map, Except.map] using hwalk
    | .error (.fieldOfNonRecord field actual) =>
      obtain ⟨front, back, o, u, rfl, hpath, hu, rfl⟩ := h
      rw [walk_append hdistinct hpath]
      cases u with
      | record => simp [DataType.isRecord, DataType.fields?] at hu
      | scalar => rfl
      | list => rfl
    | .error (.fieldNotFound field shown) =>
      obtain ⟨rfl, front, back, o, fs, a, rfl, hpath, hmissing⟩ := h
      have hposition := position?_eq_none_iff.mpr hmissing
      simp only [walk_append hdistinct hpath, walk, DataType.fields?, hposition]
      rfl

/-! ### Keys of leaves -/

/-- The key of a leaf consists of the names along its offset. -/
theorem names_of_mem_leaves {s : Schema} (hplain : hasPlainNames s.toType) {leaf : Leaf}
    (h : leaf ∈ s.leaves) : ∃ names, s.toType.descend? leaf.offset = some (names, leaf.type) ∧
      components leaf.key = names ∧ names ≠ [] ∧ ∀ name ∈ names, name ≠ "" := by
  obtain ⟨names, hpath, hkey, hleaf⟩ := mem_leaves_iff.mp h
  have hne := names_ne_nil_of_descend? hpath hleaf
  have hnames := isPlain_of_descend? hplain hpath
  refine ⟨names, hpath, hkey ▸ components_key hne hnames, hne, ?_⟩
  rintro name hmem rfl
  simpa [isPlain] using hnames "" hmem

theorem parse_key {s : Schema} (hplain : hasPlainNames s.toType) {leaf : Leaf}
    (h : leaf ∈ s.leaves) : ∃ selector, parse leaf.key = .ok selector ∧
      s.toType.descend? leaf.offset = some (selector.path, leaf.type) := by
  obtain ⟨names, hpath, hkey, hne, hsegment⟩ := names_of_mem_leaves hplain h
  have hparse : parse leaf.key = ofPath names := congrArg ofPath hkey
  exact ⟨⟨names, hne, hsegment⟩, hparse.trans (dif_pos ⟨hne, hsegment⟩), hpath⟩

theorem mem_namedLeaves_key {s : Schema} (hplain : hasPlainNames s.toType) {leaf : Leaf}
    (h : leaf ∈ s.leaves) : leaf ∈ s.namedLeaves leaf.key := by
  obtain ⟨names, -, hkey, -, hsegment⟩ := names_of_mem_leaves hplain h
  refine mem_namedLeaves_iff.mpr ⟨?_, h, List.suffix_append ..⟩
  -- the key is not empty, as none of its segments is
  intro hempty
  have hnil : components "" = [""] := by decide
  rw [hempty, hnil] at hkey
  exact hsegment "" (by simp [← hkey]) rfl

/-- The segment stands behind others that are the names along a path to a field of the type `u`,
which is no record. -/
def Enters (selector : Selector) (s : Schema) (segment : String) (u : DataType) : Prop :=
  ∃ front back o, selector.path = front ++ segment :: back ∧ front ≠ [] ∧
    s.toType.descend? o = some (front, u) ∧ u.isRecord = false

variable {s : Schema} {selector : Selector}

theorem meets_nonRecord_iff {segment actual : String} :
    Meets selector.text s.toType selector.path (.error (.fieldOfNonRecord segment actual)) ↔
      ∃ u, selector.Enters s segment u ∧ actual = u.text := by
  constructor
  · rintro ⟨front, back, o, u, hpath, hdescend, hu, hactual⟩
    exact ⟨u, ⟨front, back, o, hpath, names_ne_nil_of_descend? hdescend hu, hdescend, hu⟩, hactual⟩
  · rintro ⟨u, ⟨front, back, o, hpath, -, hdescend, hu⟩, hactual⟩
    exact ⟨front, back, o, u, hpath, hdescend, hu, hactual⟩

/-- Where sibling names differ and are neither empty nor dotted, the key of each leaf is a selector
that leads to the leaf, and as a name it means the leaf, too. A selector leads to the offset along
which its segments are the names. Otherwise it fails at a segment behind others that name a field
that is no record, or, where there is none, because a record lacks the next field. -/
theorem selectors_agree_with_leaves (hplain : hasPlainNames s.toType)
    (hdistinct : hasDistinctNames s.toType) :
    (∀ leaf ∈ s.leaves, ∃ selector, parse leaf.key = .ok selector ∧
      selector.resolve s.toType = .ok leaf.offset ∧
      leaf.offset ∈ (s.namedLeaves leaf.key).map (·.offset)) ∧
    ∀ selector : Selector,
      (∀ o, selector.resolve s.toType = .ok o ↔
        ∃ t, s.toType.descend? o = some (selector.path, t)) ∧
      (∀ segment actual, selector.resolve s.toType = .error (.fieldOfNonRecord segment actual) ↔
        ∃ u, selector.Enters s segment u ∧ actual = u.text) ∧
      ((∃ segment, selector.resolve s.toType = .error (.fieldNotFound segment selector.text)) ↔
        (∀ o t, s.toType.descend? o ≠ some (selector.path, t)) ∧
          ∀ segment u, ¬ selector.Enters s segment u) := by
  have hresolve (selector : Selector) (r : Except SelectorError Offset) :
      selector.resolve s.toType = r ↔ Meets selector.text s.toType selector.path r :=
    walk_eq_iff hdistinct
  have hentered (selector : Selector) (segment actual : String) :
      selector.resolve s.toType = .error (.fieldOfNonRecord segment actual) ↔
        ∃ u, selector.Enters s segment u ∧ actual = u.text :=
    (hresolve selector _).trans meets_nonRecord_iff
  refine ⟨fun leaf hleaf => ?_, fun selector => ⟨fun o => hresolve selector (.ok o),
    hentered selector, ?_, ?_⟩⟩
  · obtain ⟨selector, hparse, hpath⟩ := parse_key hplain hleaf
    exact ⟨selector, hparse, (hresolve selector (.ok _)).mpr ⟨_, hpath⟩,
      List.mem_map.mpr ⟨leaf, mem_namedLeaves_key hplain hleaf, rfl⟩⟩
  · rintro ⟨segment, hfailed⟩
    constructor
    · intro o t hpath
      have hok := (hresolve selector (.ok o)).mpr ⟨t, hpath⟩
      simp [hfailed] at hok
    · intro segment u henters
      have herror := (hentered selector segment u.text).mpr ⟨u, henters, rfl⟩
      simp [hfailed] at herror
  · rintro ⟨hnowhere, hnonrecord⟩
    have hmeets := meets_walk selector.text selector.path s.toType
    -- the walk has come to one of the four results, three of which are ruled out
    match hwalk : selector.resolve s.toType with
    | .ok o =>
      obtain ⟨t, hpath⟩ := (hresolve selector (.ok o)).mp hwalk
      exact absurd hpath (hnowhere o t)
    | .error (.fieldOfNonRecord segment actual) =>
      obtain ⟨u, henters, -⟩ := (hentered selector segment actual).mp hwalk
      exact absurd henters (hnonrecord segment u)
    | .error (.fieldNotFound segment shown) =>
      obtain ⟨rfl, -⟩ := (hresolve selector _).mp hwalk
      exact ⟨segment, rfl⟩
    | .error (.invalid text) => exact ((hresolve selector _).mp hwalk).elim

/-- It goes on behind a field that is no record. -/
def deepSelector : Selector := ⟨["id", "host", "name"], by decide, by decide⟩

/-- The record at its first segment has no field of its second one. -/
def lostSelector : Selector := ⟨["id", "port"], by decide, by decide⟩

theorem host_is_selected_and_not_entered : hasPlainNames connections.toType ∧
    hasDistinctNames connections.toType ∧
    (∃ selector, parse "id.host" = .ok selector ∧
      selector.resolve connections.toType = .ok [0, 1]) ∧
    deepSelector.resolve connections.toType = .error (.fieldOfNonRecord "name" "string") ∧
    ∀ o t, connections.toType.descend? o ≠ some (["id", "port"], t) := by
  have hplain : hasPlainNames connections.toType := by decide
  have hdistinct : hasDistinctNames connections.toType := by decide
  obtain ⟨hkeys, hall⟩ := selectors_agree_with_leaves hplain hdistinct
  refine ⟨hplain, hdistinct, ?_, ?_, ?_⟩
  · obtain ⟨selector, hparse, hresolve, -⟩ :=
      hkeys ⟨[0, 1], "id.host", .scalar .string⟩ (.tail _ (.head _))
    exact ⟨selector, hparse, hresolve⟩
  · exact ((hall deepSelector).2.1 "name" "string").mpr
      ⟨.scalar .string, ⟨["id", "host"], [], [0, 1], rfl, by simp, rfl, rfl⟩, rfl⟩
  · have hlost : lostSelector.resolve connections.toType =
        .error (.fieldNotFound "port" lostSelector.text) := rfl
    exact ((hall lostSelector).2.2.mp ⟨"port", hlost⟩).1

end Selector

end EventFilter
