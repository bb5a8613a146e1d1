import EventFilter.Table.Cell

/-! Layouts without the names of nested fields. Two layouts store cells alike if nothing else of
them differs, and then each column holds the cells of the other. Together with the names, in the
order in which they are written, the rest makes up the whole layout. -/

namespace EventFilter.Layout

mutual

/-- The layout with every name of a nested field blank. -/
def unnamed : Layout → Layout
  | list _ item nullable => list "" item.unnamed nullable
  | struct fields => struct (unnamedFields fields)
  | l => l

def unnamedFields : List (String × Layout × Bool) → List (String × Layout × Bool)
  | [] => []
  | (_, l, nullable) :: rest => ("", l.unnamed, nullable) :: unnamedFields rest

end

mutual

/-- The names of all nested fields, each before those within it. -/
def names : Layout → List String
  | list name item _ => name :: item.names
  | struct fields => fieldNames fields
  | _ => []

def fieldNames : List (String × Layout × Bool) → List String
  | [] => []
  | (name, l, _) :: rest => name :: (l.names ++ fieldNames rest)

end

mutual

theorem same_iff : (a b : Layout) → (a.same b ↔ a.unnamed = b.unnamed)
  | .list _ a m, b => by
    cases b <;> simp [same, unnamed, and_comm]
    rename_i b n
    rw [same_iff a b]
    exact fun _ => Iff.rfl
  | .struct as, b => by
    cases b <;> simp [same, unnamed]
    exact sameFields_iff as _
  | .foreign _, b | .null, b | .boolean, b | .int64, b | .uint64, b | .float64, b | .duration, b
  | .timestamp, b | .utf8, b | .binary, b => by
    cases b <;> simp [same, unnamed]

theorem sameFields_iff : (as bs : List (String × Layout × Bool)) →
    (sameFields as bs ↔ unnamedFields as = unnamedFields bs)
  | [], bs => by cases bs <;> simp [sameFields, unnamedFields]
  | (_, a, m) :: as, bs => by
    cases bs with
    | nil => simp [sameFields, unnamedFields]
    | cons f bs =>
      obtain ⟨_, b, n⟩ := f
      have hhead := same_iff a b
      have htail := sameFields_iff as bs
      simp [sameFields, unnamedFields, hhead, htail, and_comm, and_assoc]

end

/-! ### Names -/

mutual

theorem length_names_unnamed : (l : Layout) → l.unnamed.names.length = l.names.length
  | .list _ item _ => by simp [unnamed, names, length_names_unnamed item]
  | .struct fields => by simpa [unnamed, names] using length_fieldNames_unnamed fields
  | .foreign _ | .null | .boolean | .int64 | .uint64 | .float64 | .duration | .timestamp | .utf8
  | .binary => rfl

theorem length_fieldNames_unnamed : (fields : List (String × Layout × Bool)) →
    (fieldNames (unnamedFields fields)).length = (fieldNames fields).length
  | [] => rfl
  | (_, l, _) :: rest => by
    simp [unnamedFields, fieldNames, length_names_unnamed l, length_fieldNames_unnamed rest]

end

theorem length_names_eq {a b : Layout} (h : a.unnamed = b.unnamed) :
    a.names.length = b.names.length := by
  rw [← length_names_unnamed a, h, length_names_unnamed b]

mutual

theorem eq_of_unnamed_of_names : (a b : Layout) → a.unnamed = b.unnamed → a.names = b.names → a = b
  | .list _ a m, b, hrest, hnames => by
    cases b <;> simp [unnamed, names] at hrest hnames
    rename_i b n
    rw [eq_of_unnamed_of_names a b hrest.1 hnames.2, hnames.1, hrest.2]
  | .struct as, b, hrest, hnames => by
    cases b <;> simp [unnamed, names] at hrest hnames
    rename_i bs
    rw [fields_eq_of_unnamed_of_names as bs hrest hnames]
  | .foreign _, b, hrest, _ | .null, b, hrest, _ | .boolean, b, hrest, _ | .int64, b, hrest, _
  | .uint64, b, hrest, _ | .float64, b, hrest, _ | .duration, b, hrest, _
  | .timestamp, b, hrest, _ | .utf8, b, hrest, _ | .binary, b, hrest, _ => by
    cases b <;> simp_all [unnamed]

theorem fields_eq_of_unnamed_of_names : (as bs : List (String × Layout × Bool)) →
    unnamedFields as = unnamedFields bs → fieldNames as = fieldNames bs → as = bs
  | [], bs, hrest, _ => by cases bs <;> simp_all [unnamedFields]
  | (name, a, m) :: as, bs, hrest, hnames => by
    cases bs with
    | nil => simp [unnamedFields] at hrest
    | cons f bs =>
      obtain ⟨name', b, n⟩ := f
      simp only [unnamedFields, List.cons.injEq, Prod.mk.injEq, true_and] at hrest
      simp only [fieldNames, List.cons.injEq] at hnames
      obtain ⟨⟨ha, hm⟩, has⟩ := hrest
      obtain ⟨hname, happend⟩ := hnames
      -- equal layouts but for the names have as many of them, so that the names split alike
      obtain ⟨hhead, htail⟩ := List.append_inj happend (length_names_eq ha)
      rw [hname, eq_of_unnamed_of_names a b ha hhead, hm,
        fields_eq_of_unnamed_of_names as bs has htail]

end

theorem eq_iff_unnamed_and_names {a b : Layout} :
    a = b ↔ a.unnamed = b.unnamed ∧ a.names = b.names := by
  constructor
  · rintro rfl
    exact ⟨rfl, rfl⟩
  · rintro ⟨hrest, hnames⟩
    exact eq_of_unnamed_of_names a b hrest hnames

/-! ### Cells -/

mutual

theorem fits_unnamed : (l : Layout) → (c : Cell) → c.fits l.unnamed = c.fits l
  | .list _ item _, c => by
    have hitem : Cell.fits item.unnamed = Cell.fits item := funext (fits_unnamed item)
    cases c <;> simp [unnamed, Cell.fits, hitem]
  | .struct fields, c => by
    cases c <;> simp [unnamed, Cell.fits]
    exact fitsFields_unnamed fields _
  | .foreign _, c | .null, c | .boolean, c | .int64, c | .uint64, c | .float64, c | .duration, c
  | .timestamp, c | .utf8, c | .binary, c => rfl

theorem fitsFields_unnamed : (fields : List (String × Layout × Bool)) → (cs : List Cell) →
    Cell.fitsFields (unnamedFields fields) cs = Cell.fitsFields fields cs
  | [], cs => rfl
  | (_, l, _) :: rest, cs => by
    cases cs with
    | nil => rfl
    | cons c cs => simp [unnamedFields, Cell.fitsFields, fits_unnamed l c,
        fitsFields_unnamed rest cs]

end

theorem fits_of_same {a b : Layout} (h : a.same b) (c : Cell) : c.fits a = c.fits b := by
  rw [← fits_unnamed a, (same_iff a b).mp h, fits_unnamed b]

end EventFilter.Layout
