import EventFilter.Offset.Map

/-! Entries of maps from offsets after an insertion and after a change of all values. -/

namespace EventFilter.OffsetMap

variable {α β γ : Type} {m : OffsetMap α} {o : Offset}

theorem ext_entries {n : OffsetMap α} (h : m.entries = n.entries) : m = n := by
  cases m
  cases n
  congr

theorem mem_entries_of_find? {a : α} (h : m.find? o = some a) : (o, a) ∈ m.entries := by
  obtain ⟨e, he, rfl⟩ := Option.map_eq_some_iff.mp h
  obtain rfl : e.1 = o := by simpa using List.find?_some he
  exact List.mem_of_find?_eq_some he

theorem mem_entries_insert {a b : α} {p : Offset} (h : (p, b) ∈ (m.insert o a).entries) :
    (p = o ∧ b = a) ∨ (p, b) ∈ m.entries := by
  simpa using mem_insertEntry h

theorem mem_entries_map {f : Offset → α → β} {b : β} :
    (o, b) ∈ (m.map f).entries ↔ ∃ a, (o, a) ∈ m.entries ∧ f o a = b := by
  simp only [map, List.mem_map, Prod.mk.injEq]
  constructor
  · rintro ⟨⟨p, a⟩, ha, rfl, rfl⟩
    exact ⟨a, ha, rfl⟩
  · rintro ⟨a, ha, rfl⟩
    exact ⟨(o, a), ha, rfl, rfl⟩

theorem map_map (f : Offset → α → β) (g : Offset → β → γ) (m : OffsetMap α) :
    (m.map f).map g = m.map fun o a => g o (f o a) := by
  apply ext_entries
  simp [map]

/-- What comes after all others goes to the end. -/
theorem insertEntry_of_last {es : List (Offset × α)} {a : α} (h : ∀ e ∈ es, e.1.before o) :
    insertEntry o a es = es ++ [(o, a)] := by
  induction es with
  | nil => rfl
  | cons e rest ih =>
    obtain ⟨p, b⟩ := e
    have hp : p.before o := h (p, b) (by simp)
    have hrest := ih fun e he => h e (List.mem_cons_of_mem _ he)
    have hnot : ¬ o.before p := fun ho => Offset.not_before_self o (Offset.before_trans ho hp)
    have hne : o ≠ p := by
      rintro rfl
      exact Offset.not_before_self o hp
    rw [insertEntry, if_neg hnot, if_neg hne, hrest, List.cons_append]

end EventFilter.OffsetMap
