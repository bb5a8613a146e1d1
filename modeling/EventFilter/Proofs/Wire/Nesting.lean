import EventFilter.Wire.Decode

/-! Values that were read from some text, and what follows from their being decoded. A container that
lies too deep begins with a barrier, so that whatever is decoded nests no deeper than the reader goes. -/

namespace EventFilter.Wire

mutual

/-- Containers nest at most `depth` deep, or a barrier stands first in them. -/
def Within : Nat → Wire → Prop
  | 0, array items => ∃ rest, items = .fault .barrier :: rest
  | depth + 1, array items => WithinItems depth items
  | 0, object members => ∃ rest, members = ("", .fault .barrier) :: rest
  | depth + 1, object members => WithinMembers depth members
  | _, _ => True

def WithinItems : Nat → List Wire → Prop
  | _, [] => True
  | depth, w :: rest => Within depth w ∧ WithinItems depth rest

def WithinMembers : Nat → List (String × Wire) → Prop
  | _, [] => True
  | depth, (_, w) :: rest => Within depth w ∧ WithinMembers depth rest

end

theorem withinItems_iff {depth : Nat} {items : List Wire} :
    WithinItems depth items ↔ ∀ w ∈ items, w.Within depth := by
  induction items with
  | nil => simp [WithinItems]
  | cons w rest ih => simp [WithinItems, ih]

theorem withinMembers_iff {depth : Nat} {members : List (String × Wire)} :
    WithinMembers depth members ↔ ∀ e ∈ members, e.2.Within depth := by
  induction members with
  | nil => simp [WithinMembers]
  | cons e rest ih => simp [WithinMembers, ih]

theorem itemDepth_le_iff {depth : Nat} {items : List Wire} :
    itemDepth items ≤ depth ↔ ∀ w ∈ items, w.depth ≤ depth := by
  induction items with
  | nil => simp [itemDepth]
  | cons w rest ih => simp only [itemDepth, Nat.max_le, ih, List.forall_mem_cons]

/-- Neither an array nor an object. -/
def IsAtom : Wire → Prop
  | array _ => False
  | object _ => False
  | _ => True

theorem IsAtom.within {w : Wire} (h : w.IsAtom) (depth : Nat) : w.Within depth := by
  cases w with
  | array items => exact absurd h id
  | object members => exact absurd h id
  | _ => cases depth <;> trivial

theorem isAtom_fault (f : Fault) : (fault f).IsAtom := trivial

theorem within_fault (depth : Nat) (f : Fault) : (fault f).Within depth :=
  (isAtom_fault f).within depth

theorem readWord_eq_ok {w v : Wire} {word cs rest : List Char}
    (h : readWord w word cs = .ok (v, rest)) : v = w := by
  induction word generalizing cs with
  | nil => cases h; rfl
  | cons c word ih =>
    cases cs with
    | nil => cases h
    | cons d cs =>
      simp only [readWord] at h
      split at h
      · exact ih h
      · cases h

theorem isAtom_scanWord {w : Wire} (hw : w.IsAtom) (word : String) (cs : List Char) :
    (scanWord w word cs).1.IsAtom := by
  unfold scanWord
  split
  · rename_i v rest hread
    exact readWord_eq_ok hread ▸ hw
  · trivial

theorem isAtom_of_readNumber {negative : Bool} {cs rest : List Char} {w : Wire}
    (h : readNumber negative cs = .ok (w, rest)) : w.IsAtom := by
  unfold readNumber at h
  split at h
  · cases h
  split at h
  · cases h
  split at h
  · cases h
  simp only at h
  split at h <;> cases h <;> trivial

theorem isAtom_scanNumber (negative : Bool) (cs : List Char) :
    (scanNumber negative cs).1.IsAtom := by
  unfold scanNumber
  split
  · rename_i w rest hread
    exact isAtom_of_readNumber hread
  · trivial

/-- What the readers make of any text with some fuel keeps to the depth that they were given. -/
structure Bounded (fuel : Nat) : Prop where
  value : ∀ depth cs, (readValue fuel depth cs).1.Within depth
  items : ∀ depth cs, ∀ w ∈ (readItems fuel depth cs).1, w.Within depth
  members : ∀ depth lack cs, ∀ e ∈ (readMembers fuel depth lack cs).1, e.2.Within depth
  member : ∀ depth key cs, ∀ e ∈ (readMember fuel depth key cs).1, e.2.Within depth

variable {fuel : Nat}

theorem Bounded.readValue (h : Bounded fuel) (depth : Nat) (cs : List Char) :
    (readValue (fuel + 1) depth cs).1.Within depth := by
  rw [Wire.readValue]
  split
  · exact within_fault depth _
  · exact (isAtom_scanWord (show IsAtom .null from trivial) _ _).within depth
  · exact (isAtom_scanWord (show IsAtom (.bool true) from trivial) _ _).within depth
  · exact (isAtom_scanWord (show IsAtom (.bool false) from trivial) _ _).within depth
  · split
    · exact (show IsAtom (.string _) from trivial).within depth
    · exact within_fault depth _
  · exact (isAtom_scanNumber _ _).within depth
  · cases depth with
    | zero => exact ⟨_, rfl⟩
    | succ depth =>
      refine withinItems_iff.mpr ?_
      rw [if_neg (Nat.succ_ne_zero depth)]
      split
      · simp
      · exact h.items depth _
  · cases depth with
    | zero => exact ⟨_, rfl⟩
    | succ depth =>
      refine withinMembers_iff.mpr ?_
      rw [if_neg (Nat.succ_ne_zero depth)]
      split
      · simp
      · exact h.members depth _ _
  · split
    · exact (isAtom_scanNumber _ _).within depth
    · exact within_fault depth _

theorem Bounded.readItems (h : Bounded fuel) (depth : Nat) (cs : List Char) :
    ∀ w ∈ (readItems (fuel + 1) depth cs).1, w.Within depth := by
  have hfirst := h.value depth cs
  rw [Wire.readItems]
  split
  · rename_i w hread
    rw [hread] at hfirst
    simpa using hfirst
  · rename_i w rest hread
    rw [hread] at hfirst
    split
    · simpa using hfirst
    · exact List.forall_mem_cons.mpr ⟨hfirst, h.items depth _⟩
    · simpa [within_fault] using hfirst

theorem Bounded.readMembers (h : Bounded fuel) (depth : Nat)
    (lack : WireError → WireError → Fault) (cs : List Char) :
    ∀ e ∈ (readMembers (fuel + 1) depth lack cs).1, e.2.Within depth := by
  rw [Wire.readMembers]
  split
  · split
    · exact h.member depth _ _
    · refine List.forall_mem_cons.mpr ⟨within_fault depth _, ?_⟩
      split
      · exact h.member depth _ _
      · simp [within_fault]
    · simp [within_fault]
    · simp [within_fault]
  · simp [within_fault]

theorem Bounded.readMember (h : Bounded fuel) (depth : Nat) (key : String) (cs : List Char) :
    ∀ e ∈ (readMember (fuel + 1) depth key cs).1, e.2.Within depth := by
  rw [Wire.readMember]
  split
  · rename_i rest _
    have hfirst := h.value depth rest
    split
    · rename_i w hread
      rw [hread] at hfirst
      simpa using hfirst
    · rename_i w rest hread
      rw [hread] at hfirst
      split
      · simpa using hfirst
      · exact List.forall_mem_cons.mpr ⟨hfirst, h.members depth _ _⟩
      · simpa [within_fault] using hfirst
  · simp [within_fault]

theorem bounded (fuel : Nat) : Bounded fuel := by
  -- The four readers call each other with less fuel, so that they are bounded together.
  induction fuel with
  | zero =>
    constructor
    · intro depth cs
      rw [readValue]
      exact within_fault depth _
    all_goals simp [readItems, readMembers, readMember, within_fault]
  | succ fuel ih =>
    exact ⟨ih.readValue, ih.readItems, ih.readMembers, ih.readMember⟩

variable {α β : Type}

theorem decodeText_eq_ok {decode : Wire → Except WireError α} {s : String} {a : α}
    (h : decodeText decode s = .ok a) : ∃ w, w.Within maxDepth ∧ decode w = .ok a := by
  refine ⟨_, (bounded (2 * s.toList.length + 2)).value maxDepth s.toList, ?_⟩
  simp only [decodeText] at h
  split at h
  · cases h
  · rename_i b hdecode
    split at h
    · cases h
      exact hdecode
    · cases h

/-! ### Decoders -/

theorem asList_eq_ok {f : Wire → Except WireError α} {w : Wire} {as : List α}
    (h : asList f w = .ok as) :
    ∃ items, w = array items ∧ eachItem f items = .ok as := by
  cases w with
  | array items => exact ⟨items, rfl, h⟩
  | _ => cases h

theorem eachItem_eq_ok {f : Wire → Except WireError α} {items : List Wire} {as : List α}
    (h : eachItem f items = .ok as) : ∀ a ∈ as, ∃ w ∈ items, f w = .ok a := by
  induction items generalizing as with
  | nil =>
    cases h
    simp
  | cons w rest ih =>
    rw [eachItem] at h
    split at h
    · cases h
    · rename_i a hhead
      split at h
      · rename_i tail hrest
        cases h
        refine List.forall_mem_cons.mpr ⟨⟨w, by simp, hhead⟩, fun b hb => ?_⟩
        obtain ⟨v, hv, hread⟩ := ih hrest b hb
        exact ⟨v, List.mem_cons_of_mem _ hv, hread⟩
      · cases h

namespace Placed

theorem seq_eq_ok {q : Placed (α → β)} {p : Placed α} {b : β}
    (h : (q <*> p : Placed β) = .ok b) : ∃ f a, q = .ok f ∧ p = .ok a ∧ f a = b := by
  have hcombine : combine q p = .ok b := h
  cases q with
  | error e => cases p <;> cases hcombine
  | ok f =>
    cases p with
    | error e => cases hcombine
    | ok a => exact ⟨f, a, rfl, rfl, Except.ok.inj hcombine⟩

theorem map_eq_ok {f : α → β} {p : Placed α} {b : β} (h : (f <$> p : Placed β) = .ok b) :
    ∃ a, p = .ok a ∧ f a = b := by
  obtain ⟨g, a, hg, ha, hb⟩ := seq_eq_ok (q := .ok f) h
  cases hg
  exact ⟨a, ha, hb⟩

/-- There is no outcome but an error. -/
def Fails (p : Placed α) : Prop := ∀ a, p ≠ .ok a

theorem Fails.seq {q : Placed (α → β)} (hq : q.Fails) (p : Placed α) : (q <*> p : Placed β).Fails := by
  intro b hb
  obtain ⟨f, a, hf, -, -⟩ := seq_eq_ok hb
  exact hq f hf

theorem Fails.map {p : Placed α} (h : p.Fails) (f : α → β) : (f <$> p : Placed β).Fails := by
  intro b hb
  obtain ⟨a, ha, -⟩ := map_eq_ok hb
  exact h a ha

theorem locate_eq_ok {place : Nat} {r : Except WireError α} {a : α}
    (h : locate place r = .ok a) : r = .ok a := by
  cases r with
  | error e => cases h
  | ok b => exact congrArg Except.ok (Except.ok.inj h)

end Placed

namespace Members

variable {m : Members} {key : String} {f : Wire → Except WireError α} {a : α} {depth : Nat}

/-- All members that were found nest at most `depth` deep, or begin with a barrier. -/
def Within (depth : Nat) (m : Members) : Prop := ∀ x ∈ m.found, x.2.2.Within depth

theorem required_eq_ok (h : m.required key f = .ok a) :
    ∃ place w, m.found.lookup key = some (place, w) ∧ f w = .ok a := by
  unfold required at h
  split at h
  · rename_i place w hfound
    exact ⟨place, w, hfound, Placed.locate_eq_ok h⟩
  · cases h

theorem fails_required {place : Nat} {w : Wire} {e : WireError}
    (hfound : m.found.lookup key = some (place, w)) (h : f w = .error e) :
    (m.required key f).Fails := by
  intro a ha
  obtain ⟨place', v, hv, hread⟩ := required_eq_ok ha
  rw [hfound] at hv
  cases hv
  rw [h] at hread
  cases hread

theorem defaulted_eq_ok {default : α} (h : m.defaulted key default f = .ok a) :
    a = default ∨ ∃ place w, m.found.lookup key = some (place, w) ∧ f w = .ok a := by
  unfold defaulted at h
  split at h
  · rename_i place w hfound
    exact .inr ⟨place, w, hfound, Placed.locate_eq_ok h⟩
  · exact .inl (Except.ok.inj h).symm

theorem Within.of_lookup (h : m.Within depth) {place : Nat} {w : Wire}
    (hfound : m.found.lookup key = some (place, w)) : w.Within depth := by
  obtain ⟨xs, ys, hsplit, -⟩ := List.lookup_eq_some_iff.mp hfound
  exact h (key, place, w) (by simp [hsplit])

theorem within_ofArray {expected : List String} {items : List Wire}
    (h : ∀ w ∈ items, w.Within depth) : (ofArray expected items).Within depth := by
  rintro ⟨name, place, w⟩ hx
  exact h w (List.of_mem_zip (List.of_mem_zip hx).2).2

theorem within_addNamed {expected : List String} {members : List (String × Wire)}
    (h : ∀ e ∈ members, e.2.Within depth) (hm : m.Within depth) (place : Nat) :
    (addNamed expected place members m).Within depth := by
  induction members generalizing place m with
  | nil => exact hm
  | cons e rest ih =>
    obtain ⟨name, w⟩ := e
    obtain ⟨hhead, hrest⟩ := List.forall_mem_cons.mp h
    simp only [addNamed]
    split
    · exact hm
    · refine ih hrest ?_ (place + 1)
      split
      · intro x hx
        rcases List.mem_append.mp hx with hx | hx
        · exact hm x hx
        · obtain rfl := List.mem_singleton.mp hx
          exact hhead
      · exact hm

end Members

theorem asStructure_eq_ok {expected : List String} {read : Members → Placed α} {w : Wire} {a : α}
    (h : asStructure expected read w = .ok a) :
    (∃ members, w = object members ∧ (Members.ofObject expected members).fault = .ok () ∧
      read (.ofObject expected members) = .ok a) ∨
    ∃ items, w = array items ∧ read (.ofArray expected items) = .ok a := by
  have hfinish : ∀ m : Members, asStructure.finish read m = .ok a →
      m.fault = .ok () ∧ read m = .ok a := by
    intro m hm
    unfold asStructure.finish at hm
    split at hm
    · rename_i b hboth
      cases hm
      obtain ⟨f, done, hf, hdone, hb⟩ := Placed.seq_eq_ok (p := m.fault) hboth
      obtain ⟨c, hc, rfl⟩ := Placed.map_eq_ok hf
      cases hb
      exact ⟨hdone, hc⟩
    · cases hm
  cases w with
  | object members => exact .inl ⟨members, rfl, hfinish _ h⟩
  | array items => exact .inr ⟨items, rfl, (hfinish _ h).2⟩
  | _ => cases h

theorem exists_of_asStructure {expected : List String} {read : Members → Placed α} {w : Wire} {a : α}
    (h : asStructure expected read w = .ok a) : ∃ m, read m = .ok a := by
  rcases asStructure_eq_ok h with ⟨members, -, -, hread⟩ | ⟨items, -, hread⟩
  · exact ⟨_, hread⟩
  · exact ⟨_, hread⟩

/-- What is taken as a structure was taken from members that lie one level further down. -/
theorem asStructure_within {key : String} {keys : List String} {read : Members → Placed α} {w : Wire}
    {a : α} {depth : Nat} (hw : w.Within depth) (h : asStructure (key :: keys) read w = .ok a)
    (hfirst : ∀ m : Members, m.found.lookup key = some (0, .fault .barrier) → (read m).Fails) :
    ∃ n m, depth = n + 1 ∧ read m = .ok a ∧ m.Within n := by
  rcases asStructure_eq_ok h with ⟨members, rfl, hfault, hread⟩ | ⟨items, rfl, hread⟩
  · cases depth with
    | zero =>
      -- A barrier has no key, which no object gets over.
      obtain ⟨rest, rfl⟩ := hw
      cases hfault
    | succ n =>
      refine ⟨n, _, rfl, hread, Members.within_addNamed (withinMembers_iff.mp hw) ?_ 0⟩
      simp [Members.Within]
  · cases depth with
    | zero =>
      -- In an array the barrier stands in the place of the first member, which has to refuse it.
      obtain ⟨rest, rfl⟩ := hw
      refine absurd hread (hfirst _ ?_ a)
      simp [Members.ofArray, List.range_succ_eq_map]
    | succ n => exact ⟨n, _, rfl, hread, Members.within_ofArray (withinItems_iff.mp hw)⟩

/-- What the decoder takes nests no deeper, when it is written, than the value that it is taken from. -/
def Confined (decode : Wire → Except WireError α) (toWire : α → Wire) : Prop :=
  ∀ {w : Wire} {depth : Nat} {a : α}, w.Within depth → decode w = .ok a → (toWire a).depth ≤ depth

theorem confined_list {f : Wire → Except WireError α} {toWire : α → Wire} (h : Confined f toWire)
    (hbarrier : f (.fault .barrier) = .error .malformed) :
    Confined (asList f) fun as => .array (as.map toWire) := by
  intro w depth as hw hread
  obtain ⟨items, rfl, hitems⟩ := asList_eq_ok hread
  cases depth with
  | zero =>
    obtain ⟨rest, rfl⟩ := hw
    rw [eachItem, hbarrier] at hitems
    cases hitems
  | succ n =>
    have hdeep : ∀ a ∈ as, (toWire a).depth ≤ n := by
      intro a ha
      obtain ⟨v, hv, hva⟩ := eachItem_eq_ok hitems a ha
      exact h (withinItems_iff.mp hw v hv) hva
    exact Nat.succ_le_succ (itemDepth_le_iff.mpr (by simpa using hdeep))

end EventFilter.Wire
