import EventFilter.Offset

/-! Finite maps from offsets, kept in ascending order of the offsets. -/

namespace EventFilter

structure OffsetMap (α : Type) where
  entries : List (Offset × α)
  ascending : entries.Pairwise fun a b => Offset.before a.1 b.1

namespace OffsetMap

variable {α β : Type}

def empty : OffsetMap α := ⟨[], .nil⟩

def find? (m : OffsetMap α) (o : Offset) : Option α := (m.entries.find? (·.1 = o)).map (·.2)

/-- Puts an entry in its place, instead of the one that was there. -/
def insertEntry (o : Offset) (a : α) : List (Offset × α) → List (Offset × α)
  | [] => [(o, a)]
  | (p, b) :: rest =>
    if o.before p then (o, a) :: (p, b) :: rest
    else if o = p then (o, a) :: rest
    else (p, b) :: insertEntry o a rest

theorem mem_insertEntry {o : Offset} {a : α} {es : List (Offset × α)} {e : Offset × α}
    (h : e ∈ insertEntry o a es) : e = (o, a) ∨ e ∈ es := by
  induction es with
  | nil => simpa [insertEntry] using h
  | cons x rest ih =>
    obtain ⟨p, b⟩ := x
    simp only [insertEntry] at h
    split at h
    · simpa using h
    · split at h
      · rcases List.mem_cons.1 h with h | h
        · exact .inl h
        · exact .inr (List.mem_cons_of_mem _ h)
      · rcases List.mem_cons.1 h with h | h
        · exact .inr (h ▸ List.mem_cons_self)
        · exact (ih h).imp id (List.mem_cons_of_mem _)

theorem pairwise_insertEntry (o : Offset) (a : α) (es : List (Offset × α))
    (h : es.Pairwise fun a b => Offset.before a.1 b.1) :
    (insertEntry o a es).Pairwise fun a b => Offset.before a.1 b.1 := by
  induction es with
  | nil => simp [insertEntry]
  | cons x rest ih =>
    obtain ⟨p, b⟩ := x
    obtain ⟨hx, hrest⟩ := List.pairwise_cons.1 h
    simp only [insertEntry]
    split
    · rename_i hop
      refine List.pairwise_cons.2 ⟨fun e he => ?_, h⟩
      rcases List.mem_cons.1 he with rfl | he
      · exact hop
      · exact Offset.before_trans hop (hx e he)
    · rename_i hop
      split
      · rename_i heq
        subst heq
        exact List.pairwise_cons.2 ⟨hx, hrest⟩
      · rename_i hne
        refine List.pairwise_cons.2 ⟨fun e he => ?_, ih hrest⟩
        rcases mem_insertEntry he with rfl | he
        · exact Offset.before_of_not_before hop hne
        · exact hx e he

/-- Whether entries ascend is a matter of their offsets. -/
theorem pairwise_of_map_fst_eq {es : List (Offset × α)} {fs : List (Offset × β)}
    (h : es.map Prod.fst = fs.map Prod.fst) (hes : es.Pairwise fun a b => Offset.before a.1 b.1) :
    fs.Pairwise fun a b => Offset.before a.1 b.1 := by
  have hkeys : (es.map Prod.fst).Pairwise fun o p => o.before p := List.pairwise_map.mpr hes
  rw [h] at hkeys
  exact List.pairwise_map.mp hkeys

def insert (m : OffsetMap α) (o : Offset) (a : α) : OffsetMap α :=
  ⟨insertEntry o a m.entries, pairwise_insertEntry o a m.entries m.ascending⟩

/-- Changes the values and keeps the offsets. -/
def map (f : Offset → α → β) (m : OffsetMap α) : OffsetMap β :=
  ⟨m.entries.map fun e => (e.1, f e.1 e.2), by
    rw [List.pairwise_map]
    exact m.ascending⟩

variable {ε : Type}

/-- Changes the values in turn, each with an item of its own, up to the first that refuses. What was
changed before that stays changed. -/
def updateEntries (f : α → β → Except ε α) :
    List (Offset × α) → List β → List (Offset × α) × Except ε Unit
  | (o, a) :: es, b :: bs =>
    match f a b with
    | .error err => ((o, a) :: es, .error err)
    | .ok a' => ((o, a') :: (updateEntries f es bs).1, (updateEntries f es bs).2)
  | es, _ => (es, .ok ())

theorem map_fst_updateEntries (f : α → β → Except ε α) (es : List (Offset × α)) (bs : List β) :
    (updateEntries f es bs).1.map Prod.fst = es.map Prod.fst := by
  induction es generalizing bs with
  | nil => simp [updateEntries]
  | cons e es ih =>
    obtain ⟨o, a⟩ := e
    cases bs with
    | nil => simp [updateEntries]
    | cons b bs => cases h : f a b <;> simp [updateEntries, h, ih]

/-- Changes values in place; the offsets stay. -/
def update (f : α → β → Except ε α) (m : OffsetMap α) (bs : List β) :
    OffsetMap α × Except ε Unit :=
  (⟨(updateEntries f m.entries bs).1,
    pairwise_of_map_fst_eq (map_fst_updateEntries f m.entries bs).symm m.ascending⟩,
    (updateEntries f m.entries bs).2)

end OffsetMap

end EventFilter
