import EventFilter.DataType.Compatible

/-! Congruence as equality of shapes, the types with all names and attributes taken away. Nothing else
of a type decides which literals it is compared with. -/

namespace EventFilter.DataType

mutual

/-- The type with blank names of fields and blank labels at every depth. -/
def shape : DataType → DataType
  | scalar k _ => scalar k
  | list t _ => list t.shape
  | record fs _ => record (fieldShapes fs)

def fieldShapes : List Field → List Field
  | [] => []
  | (_, t) :: rest => ("", t.shape) :: fieldShapes rest

end

mutual

theorem congruent_iff : (t u : DataType) → (t.congruent u ↔ t.shape = u.shape)
  | .scalar k a, u => by cases u <;> simp [congruent, shape]
  | .list t a, u => by
    cases u with
    | list u b =>
      have hitem := congruent_iff t u
      simp [congruent, shape, hitem]
    | _ => simp [congruent, shape]
  | .record fs a, u => by
    cases u with
    | record gs b =>
      have hfields := congruentFields_iff fs gs
      simp [congruent, shape, hfields]
    | _ => simp [congruent, shape]

theorem congruentFields_iff : (fs gs : List Field) →
    (congruentFields fs gs ↔ fieldShapes fs = fieldShapes gs)
  | [], gs => by cases gs <;> simp [congruentFields, fieldShapes]
  | (_, t) :: fs, gs => by
    cases gs with
    | nil => simp [congruentFields, fieldShapes]
    | cons g gs =>
      obtain ⟨_, u⟩ := g
      have hhead := congruent_iff t u
      have htail := congruentFields_iff fs gs
      simp [congruentFields, fieldShapes, hhead, htail]

end

theorem congruent_equivalence : Equivalence fun t u : DataType => t.congruent u where
  refl t := (congruent_iff t t).mpr rfl
  symm {t u} h := by
    rw [congruent_iff] at h ⊢
    exact h.symm
  trans {t u v} h h' := by
    rw [congruent_iff] at h h' ⊢
    exact h.trans h'

/-! ### Compatibility -/

mutual

theorem equality_shape : (d : Data) → (t : DataType) → t.shape.equality d = t.equality d
  | .list items, t => by
    cases t with
    | list t a => simpa [shape, equality] using equalityAll_shape items t
    | _ => rfl
  | .null, t => by cases t <;> rfl
  | .bool _, t | .int64 _, t | .uint64 _, t | .double _, t | .duration _, t | .time _, t
  | .string _, t | .pattern _, t | .blob _, t => by cases t <;> rfl

theorem equalityAll_shape : (ds : List Data) → (t : DataType) →
    equalityAll t.shape ds = equalityAll t ds
  | [], t => rfl
  | d :: rest, t => by simp only [equalityAll, equality_shape d t, equalityAll_shape rest t]

end

theorem ordering_shape (t : DataType) (d : Data) : t.shape.ordering d = t.ordering d := by
  cases t with
  | scalar k a => cases k <;> cases d <;> rfl
  | _ => rfl

theorem membership_shape (t : DataType) (d : Data) : t.shape.membership d = t.membership d := by
  cases d with
  | list items =>
    have hitem : t.shape.equality = t.equality := funext fun d => equality_shape d t
    simp only [membership, hitem]
  | _ =>
    cases t with
    | scalar k a => cases k <;> rfl
    | _ => rfl

theorem inclusion_shape (t : DataType) (d : Data) : t.shape.inclusion d = t.inclusion d := by
  cases t with
  | scalar k a => cases k <;> cases d <;> rfl
  | list t a => simp only [shape, inclusion, equality_shape]
  | record fs a => rfl

theorem compatible_shape (t : DataType) (op : Operator) (d : Data) :
    t.shape.compatible op d = t.compatible op d := by
  cases op with
  | equal | notEqual => exact equality_shape d t
  | less | lessEqual | greater | greaterEqual => exact ordering_shape t d
  | isIn | notIn => exact membership_shape t d
  | ni | notNi => exact inclusion_shape t d

theorem compatible_eq_of_congruent {t u : DataType} (h : t.congruent u) (op : Operator) (d : Data) :
    t.compatible op d = u.compatible op d := by
  rw [← compatible_shape t, (congruent_iff t u).mp h, compatible_shape]

end EventFilter.DataType
