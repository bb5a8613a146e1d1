import EventFilter.Proofs.Wire.RoundTrip
import EventFilter.Wire.Decode

/-! Decoders against the values that they are for, at every depth. Where the value fits, the decoder
takes it; where it lies too deep, the decoder comes to a barrier and to no other error first. Each way
to build a decoder keeps this. -/

namespace EventFilter.Wire

/-- The decoder takes the value for `a`, and stops at a barrier where the value lies too deep. -/
def Recovers {α : Type} (decode : Wire → Except WireError α) (w : Wire) (a : α) : Prop :=
  ∀ depth, decode (w.barred depth) = if w.depth ≤ depth then .ok a else .error .malformed

variable {α β : Type}

theorem decodeText_of_recovers {decode : Wire → Except WireError α} {w : Wire} {a : α}
    (h : Recovers decode w a) (hw : w.isPlain) :
    decodeText decode w.text = if w.depth ≤ maxDepth then .ok a else .error .malformed := by
  rw [decodeText_text decode hw, h]

/-- A scalar is read alike at every depth. -/
theorem recovers_of_eq_ok {decode : Wire → Except WireError α} {w : Wire} {a : α}
    (hdepth : w.depth = 0) (h : decode w = .ok a) : Recovers decode w a := by
  intro depth
  rw [barred_eq_self depth w (by omega), h, if_pos (by omega)]

theorem recovers_string (s : String) : Recovers asString (.string s) s := recovers_of_eq_ok rfl rfl

theorem recovers_bool (b : Bool) : Recovers asBool (.bool b) b := recovers_of_eq_ok rfl rfl

theorem recovers_natural {width n : Nat} (h : n < Nat.pow 2 width) :
    Recovers (asNatural width) (.integer n) n := by
  have hbound : (n : Int) ≤ ((1 <<< width : Nat) : Int) - 1 := by
    have hsize : 1 <<< width = Nat.pow 2 width := Nat.one_shiftLeft width
    omega
  have hread : asInteger 0 ((1 <<< width : Nat) - 1) (.integer n) = .ok (n : Int) :=
    if_pos ⟨by omega, hbound⟩
  exact recovers_of_eq_ok rfl (by simp only [asNatural, hread, Int.toNat_natCast])

theorem recovers_int64 (n : Int64) : Recovers asInt64 (.integer n.toInt) n := by
  have hread : asInteger Int64.minValue.toInt Int64.maxValue.toInt (.integer n.toInt) =
      .ok n.toInt := if_pos ⟨n.minValue_le_toInt, n.toInt_le⟩
  exact recovers_of_eq_ok rfl (by simp only [asInt64, hread, Int64.ofInt_toInt])

theorem recovers_none (f : Wire → Except WireError α) : Recovers (asOption f) .null none :=
  recovers_of_eq_ok rfl rfl

theorem barred_ne_null {w : Wire} (h : w ≠ .null) (depth : Nat) : w.barred depth ≠ .null := by
  cases w <;> cases depth <;> simp_all [barred]

theorem Recovers.some {f : Wire → Except WireError α} {w : Wire} {a : α} (h : Recovers f w a)
    (hw : w ≠ .null) : Recovers (asOption f) w (some a) := by
  intro depth
  have hne := barred_ne_null hw depth
  have hread := h depth
  generalize w.barred depth = v at hne hread
  by_cases hfits : w.depth ≤ depth
  · rw [if_pos hfits] at hread ⊢
    cases v <;> first | exact absurd rfl hne | simp only [asOption, hread]
  · rw [if_neg hfits] at hread ⊢
    cases v <;> first | exact absurd rfl hne | simp only [asOption, hread]

theorem eachItem_barredItems {f : Wire → Except WireError α} {toWire : α → Wire} {items : List α}
    (h : ∀ a ∈ items, Recovers f (toWire a) a) (depth : Nat) :
    eachItem f (barredItems depth (items.map toWire)) =
      if itemDepth (items.map toWire) ≤ depth then .ok items else .error .malformed := by
  induction items with
  | nil => rfl
  | cons a rest ih =>
    have hrest := ih fun b hb => h b (List.mem_cons_of_mem _ hb)
    simp only [List.map_cons, barredItems, eachItem, itemDepth, h a (by simp) depth, hrest]
    by_cases ha : (toWire a).depth ≤ depth
    · by_cases hr : itemDepth (rest.map toWire) ≤ depth
      · rw [if_pos ha, if_pos hr, if_pos (Nat.max_le.mpr ⟨ha, hr⟩)]
      · rw [if_pos ha, if_neg hr, if_neg fun hmax => hr (Nat.max_le.mp hmax).2]
    · rw [if_neg ha, if_neg fun hmax => ha (Nat.max_le.mp hmax).1]

theorem recovers_list {f : Wire → Except WireError α} {toWire : α → Wire} {items : List α}
    (h : ∀ a ∈ items, Recovers f (toWire a) a)
    (hbarrier : f (.fault .barrier) = .error .malformed) :
    Recovers (asList f) (.array (items.map toWire)) items := by
  intro depth
  cases depth with
  | zero => simp [barred, asList, eachItem, hbarrier, Wire.depth]
  | succ n => simp [barred, asList, eachItem_barredItems h n, Wire.depth]

/-! ### Structures -/

namespace Placed

/-- The outcome is `a` where everything fits, and an error of syntax where something does not. -/
def Gives (p : Placed α) (fits : Prop) (a : α) : Prop :=
  (fits → p = .ok a) ∧ (¬ fits → ∃ place, p = .error (place, .malformed))

/-- An error, if there is one, comes after the first place. -/
def Late (p : Placed α) : Prop := ∀ e, p = .error e → 0 < e.1

variable {p : Placed α} {fits fits' : Prop} {a : α}

theorem Gives.congr {b : α} (h : p.Gives fits a) (hvalue : a = b) (hiff : fits ↔ fits') :
    p.Gives fits' b :=
  hvalue ▸ ⟨fun hf => h.1 (hiff.mpr hf), fun hf => h.2 fun hn => hf (hiff.mp hn)⟩

theorem Gives.map (h : p.Gives fits a) (f : α → β) : (f <$> p : Placed β).Gives fits (f a) := by
  constructor
  · intro hfits
    rw [h.1 hfits]
    rfl
  · intro hfits
    obtain ⟨place, hp⟩ := h.2 hfits
    exact ⟨place, by rw [hp]; rfl⟩

theorem Gives.seq {f : α → β} {q : Placed (α → β)} (hq : q.Gives fits f) (h : p.Gives fits' a) :
    (q <*> p : Placed β).Gives (fits ∧ fits') (f a) := by
  constructor
  · rintro ⟨hfits, hfits'⟩
    rw [hq.1 hfits, h.1 hfits']
    rfl
  · intro hnot
    show ∃ place, combine q p = _
    by_cases hfits : fits
    · obtain ⟨place, hp⟩ := h.2 fun hfits' => hnot ⟨hfits, hfits'⟩
      exact ⟨place, by rw [hq.1 hfits, hp]; rfl⟩
    · obtain ⟨first, hfirst⟩ := hq.2 hfits
      by_cases hfits' : fits'
      · exact ⟨first, by rw [hfirst, h.1 hfits']; rfl⟩
      · obtain ⟨second, hsecond⟩ := h.2 hfits'
        have hboth : combine q p = .error (if second < first then (second, .malformed)
            else (first, .malformed)) := by rw [hfirst, hsecond]; rfl
        rw [hboth]
        split
        · exact ⟨second, rfl⟩
        · exact ⟨first, rfl⟩

theorem gives_locate {f : Wire → Except WireError α} {w : Wire} (h : Recovers f w a)
    (place depth : Nat) : (locate place (f (w.barred depth))).Gives (w.depth ≤ depth) a := by
  constructor
  · intro hfits
    rw [h depth, if_pos hfits]
    rfl
  · intro hfits
    exact ⟨place, by rw [h depth, if_neg hfits]; rfl⟩

theorem Late.seq {q : Placed (α → β)} (hq : q.Late) (h : p.Late) : (q <*> p : Placed β).Late := by
  intro e he
  have hcombine : combine q p = .error e := he
  cases hqe : q with
  | ok f =>
    rw [hqe] at hcombine
    cases hpe : p with
    | ok a => rw [hpe] at hcombine; cases hcombine
    | error d =>
      rw [hpe] at hcombine
      cases hcombine
      exact h e hpe
  | error c =>
    rw [hqe] at hcombine
    cases hpe : p with
    | ok a =>
      rw [hpe] at hcombine
      cases hcombine
      exact hq e hqe
    | error d =>
      rw [hpe] at hcombine
      have heither : (if d.1 < c.1 then d else c) = e := Except.error.inj hcombine
      split at heither
      · exact heither ▸ h d hpe
      · exact heither ▸ hq c hqe

theorem Late.map (h : p.Late) (f : α → β) : (f <$> p : Placed β).Late := by
  have hpure : Late (Except.ok f : Placed (α → β)) := by
    intro e he
    cases he
  exact hpure.seq h

end Placed

namespace Members

/-- Members found one after the other from a place on. -/
def inOrder (place : Nat) : List (String × Wire) → List (String × Nat × Wire)
  | [] => []
  | (key, w) :: rest => (key, place, w) :: inOrder (place + 1) rest

/-- The members of an object, all of which were found. -/
def ofAll (members : List (String × Wire)) : Members where
  found := inOrder 0 members
  size := members.length
  named := true

theorem addNamed_inOrder {expected : List String} {members : List (String × Wire)} (place : Nat)
    (m : Members) (hknown : members.map (·.1) ⊆ expected) (hdistinct : (members.map (·.1)).Nodup)
    (hnew : ∀ e ∈ members, ∀ x ∈ m.found, x.1 ≠ e.1) (hkeys : ∀ e ∈ members, e.2.keyless = none) :
    addNamed expected place members m =
      { m with found := m.found ++ inOrder place members } := by
  induction members generalizing place m with
  | nil => simp [addNamed, inOrder]
  | cons e rest ih =>
    obtain ⟨key, w⟩ := e
    have hcontains : expected.contains key = true := by
      rw [List.contains_iff_mem]
      exact hknown (by simp)
    have hfresh : m.found.any (·.1 == key) = false := by
      simpa using hnew (key, w) (by simp)
    have hkey : w.keyless = none := hkeys (key, w) (by simp)
    obtain ⟨hhead, htail⟩ := List.nodup_cons.mp hdistinct
    have hrest := ih (place + 1) { m with found := m.found ++ [(key, place, w)] }
      (fun k hk => hknown (List.mem_cons_of_mem _ hk)) htail
      (by
        intro e he x hx
        rcases List.mem_append.mp hx with hx | hx
        · exact hnew e (List.mem_cons_of_mem _ he) x hx
        · obtain rfl := List.mem_singleton.mp hx
          intro heq
          exact hhead (List.mem_map.mpr ⟨e, he, heq.symm⟩))
      (fun e he => hkeys e (List.mem_cons_of_mem _ he))
    simp only [addNamed, hcontains, hfresh, hkey, Option.or_none, if_true, Bool.false_eq_true,
      if_false, hrest, inOrder, List.append_assoc, List.singleton_append]

theorem ofObject_eq_ofAll {expected : List String} {members : List (String × Wire)}
    (hknown : members.map (·.1) ⊆ expected) (hdistinct : (members.map (·.1)).Nodup)
    (hkeys : ∀ e ∈ members, e.2.keyless = none) : ofObject expected members = ofAll members := by
  rw [ofObject, addNamed_inOrder 0 _ hknown hdistinct (by simp) hkeys]
  rfl

variable {m : Members} {members : List (String × Wire)} {key : String}
  {f : Wire → Except WireError α} {w : Wire} {a : α}

theorem lookup_inOrder_of_eq_none (hlookup : members.lookup key = none)
    (place : Nat) : (inOrder place members).lookup key = none := by
  induction members generalizing place with
  | nil => rfl
  | cons e rest ih =>
    obtain ⟨name, v⟩ := e
    rw [inOrder, List.lookup_cons]
    rw [List.lookup_cons] at hlookup
    cases hname : key == name with
    | true => simp [hname] at hlookup
    | false => exact ih (by simpa [hname] using hlookup) (place + 1)

theorem lookup_inOrder_of_eq_some {members : List (String × Wire)}
    (hlookup : members.lookup key = some w) (place : Nat) :
    ∃ p, (inOrder place members).lookup key = some (p, w) := by
  induction members generalizing place with
  | nil => simp at hlookup
  | cons e rest ih =>
    obtain ⟨name, v⟩ := e
    rw [inOrder, List.lookup_cons]
    rw [List.lookup_cons] at hlookup
    cases hname : key == name with
    | true =>
      obtain rfl : v = w := by simpa [hname] using hlookup
      exact ⟨place, rfl⟩
    | false => exact ih (by simpa [hname] using hlookup) (place + 1)

theorem lookup_barredMembers (depth : Nat) (key : String) (members : List (String × Wire)) :
    (barredMembers depth members).lookup key = (members.lookup key).map (barred depth) := by
  induction members with
  | nil => rfl
  | cons e rest ih =>
    obtain ⟨name, v⟩ := e
    rw [barredMembers, List.lookup_cons, List.lookup_cons]
    cases key == name with
    | true => rfl
    | false => exact ih

theorem exists_lookup_ofAll (hmember : members.lookup key = some w) (depth : Nat) :
    ∃ place, (ofAll (barredMembers depth members)).found.lookup key =
      some (place, w.barred depth) := by
  have hbarred := lookup_barredMembers depth key members
  rw [hmember] at hbarred
  exact lookup_inOrder_of_eq_some hbarred 0

theorem gives_required (h : Recovers f w a) (hmember : members.lookup key = some w) (depth : Nat) :
    ((ofAll (barredMembers depth members)).required key f).Gives (w.depth ≤ depth) a := by
  obtain ⟨place, hplace⟩ := exists_lookup_ofAll hmember depth
  rw [required, hplace]
  exact Placed.gives_locate h place depth

theorem gives_defaulted (h : Recovers f w a) (default : α)
    (hmember : members.lookup key = some w) (depth : Nat) :
    ((ofAll (barredMembers depth members)).defaulted key default f).Gives (w.depth ≤ depth) a := by
  obtain ⟨place, hplace⟩ := exists_lookup_ofAll hmember depth
  rw [defaulted, hplace]
  exact Placed.gives_locate h place depth

theorem gives_default (default : α) (hmember : members.lookup key = none) (depth : Nat) :
    ((ofAll (barredMembers depth members)).defaulted key default f).Gives True default := by
  have hbarred := lookup_barredMembers depth key members
  rw [hmember] at hbarred
  have hfound : (ofAll (barredMembers depth members)).found.lookup key = none :=
    lookup_inOrder_of_eq_none hbarred 0
  rw [defaulted, hfound]
  exact ⟨fun _ => rfl, fun hnot => absurd trivial hnot⟩

theorem gives_nullable {b : Option α} (h : Recovers (asOption f) w b)
    (hmember : members.lookup key = some w) (depth : Nat) :
    ((ofAll (barredMembers depth members)).nullable key f).Gives (w.depth ≤ depth) b := by
  have hnamed : (ofAll (barredMembers depth members)).named = true := rfl
  rw [nullable, if_pos hnamed]
  exact gives_defaulted h none hmember depth

/-- A member that is left out where it has no value. -/
theorem gives_optional {toWire : α → Wire} {value : Option α}
    (h : ∀ a, value = some a → Recovers (asOption f) (toWire a) (some a))
    (hmember : members.lookup key = value.map toWire) (depth : Nat) :
    ((ofAll (barredMembers depth members)).defaulted key none (asOption f)).Gives
      (∀ a, value = some a → (toWire a).depth ≤ depth) value := by
  cases value with
  | none => exact (gives_default none hmember depth).congr rfl (by simp)
  | some a => exact (gives_defaulted (h a rfl) none hmember depth).congr rfl (by simp)

theorem late_required (hfound : m.found = []) (hsize : 0 < m.size) : (m.required key f).Late := by
  intro e he
  simp only [required, hfound, List.lookup_nil] at he
  cases he
  exact hsize

theorem late_defaulted (default : α) (hfound : m.found = []) :
    (m.defaulted key default f).Late := by
  intro e he
  simp [defaulted, hfound] at he

theorem late_nullable (hfound : m.found = []) (hsize : 0 < m.size) : (m.nullable key f).Late := by
  unfold nullable
  split
  · exact late_defaulted none hfound
  · exact late_required hfound hsize

end Members

theorem keyless_barred {w : Wire} (h : w.isPlain) (depth : Nat) : (w.barred depth).keyless = none := by
  cases w <;> cases depth <;> first | rfl | simp [isPlain] at h

theorem mem_barredMembers {depth : Nat} {members : List (String × Wire)} {e : String × Wire}
    (h : e ∈ barredMembers depth members) : ∃ w, (e.1, w) ∈ members ∧ e.2 = w.barred depth := by
  induction members with
  | nil => simp [barredMembers] at h
  | cons x rest ih =>
    obtain ⟨key, w⟩ := x
    rcases List.mem_cons.mp h with rfl | h
    · exact ⟨w, by simp, rfl⟩
    · obtain ⟨v, hv, he⟩ := ih h
      exact ⟨v, List.mem_cons_of_mem _ hv, he⟩

theorem map_fst_barredMembers (depth : Nat) (members : List (String × Wire)) :
    (barredMembers depth members).map (·.1) = members.map (·.1) := by
  induction members with
  | nil => rfl
  | cons e rest ih => simp [barredMembers, ih]

theorem plainMembers_iff {members : List (String × Wire)} :
    plainMembers members ↔ ∀ e ∈ members, e.2.isPlain := by
  induction members with
  | nil => simp [plainMembers]
  | cons e rest ih => simp [plainMembers, ih]

theorem memberDepth_append (xs ys : List (String × Wire)) :
    memberDepth (xs ++ ys) = max (memberDepth xs) (memberDepth ys) := by
  induction xs with
  | nil => simp [memberDepth]
  | cons x rest ih => simp [memberDepth, ih, Nat.max_assoc]

theorem memberDepth_le_iff {members : List (String × Wire)} {depth : Nat} :
    memberDepth members ≤ depth ↔ ∀ e ∈ members, e.2.depth ≤ depth := by
  induction members with
  | nil => simp [memberDepth]
  | cons e rest ih => simp only [memberDepth, Nat.max_le, ih, List.forall_mem_cons]

theorem plainMembers_append {xs ys : List (String × Wire)} :
    plainMembers (xs ++ ys) ↔ plainMembers xs ∧ plainMembers ys := by
  simp only [plainMembers_iff, List.forall_mem_append]

/-- A structure is taken from an object of its own members if these are taken, and if the lack of all
of them shows only at the end. -/
theorem recovers_structure {expected : List String} {read : Members → Placed α}
    {members : List (String × Wire)} {a : α} (hplain : plainMembers members)
    (hknown : members.map (·.1) ⊆ expected) (hdistinct : (members.map (·.1)).Nodup)
    (hlate : ∀ m : Members, m.found = [] → 0 < m.size → (read m).Late)
    (hgives : ∀ depth, (read (.ofAll (barredMembers depth members))).Gives
      (memberDepth members ≤ depth) a) :
    Recovers (asStructure expected read) (.object members) a := by
  intro depth
  cases depth with
  | zero =>
    have hfirst : Members.ofObject expected (("", .fault .barrier) :: barredMembers 0 members) =
        { size := (barredMembers 0 members).length + 1, named := true,
          fault := .error (0, .malformed) } := rfl
    have hread := hlate _ (congrArg Members.found hfirst) (by rw [hfirst]; exact Nat.succ_pos _)
    have hdepth : ¬ (object members).depth ≤ 0 := by simp [Wire.depth]
    rw [if_neg hdepth]
    simp only [barred, asStructure, asStructure.finish]
    rw [hfirst] at hread ⊢
    cases hm : read _ with
    | ok b => rfl
    | error e =>
      have hpos : 0 < e.1 := hread e hm
      have hboth : Placed.combine ((fun a _ => a) <$> (.error e : Placed α))
          (.error (0, .malformed) : Placed Unit) = .error (0, .malformed) := by
        show Except.error (if 0 < e.1 then (0, WireError.malformed) else e) = _
        rw [if_pos hpos]
      rw [hboth]
  | succ n =>
    have hall : Members.ofObject expected (barredMembers n members) =
        .ofAll (barredMembers n members) := by
      refine Members.ofObject_eq_ofAll ?_ ?_ ?_
      · rw [map_fst_barredMembers]
        exact hknown
      · rw [map_fst_barredMembers]
        exact hdistinct
      · intro e he
        obtain ⟨w, hw, heq⟩ := mem_barredMembers he
        rw [heq]
        exact keyless_barred (plainMembers_iff.mp hplain _ hw) n
    obtain ⟨hfits, hdeep⟩ := hgives n
    simp only [barred, asStructure, asStructure.finish, hall]
    by_cases hdepth : memberDepth members ≤ n
    · rw [hfits hdepth, if_pos (by simpa [Wire.depth] using hdepth)]
      rfl
    · obtain ⟨place, hplace⟩ := hdeep hdepth
      rw [hplace, if_neg (by simpa [Wire.depth] using hdepth)]
      rfl

/-- A structure of two members, both of which have to be there. -/
theorem recovers_pair {f : Wire → Except WireError α} {g : Wire → Except WireError β}
    {first second : String} {v w : Wire} {a : α} {b : β} (hkeys : second ≠ first)
    (hf : Recovers f v a) (hg : Recovers g w b) (hv : v.isPlain) (hw : w.isPlain) :
    Recovers (asStructure [first, second] fun m =>
      Prod.mk <$> m.required first f <*> m.required second g)
      (.object [(first, v), (second, w)]) (a, b) := by
  refine recovers_structure ?_ (by simp) ?_ ?_ fun depth => ?_
  · simp [plainMembers, hv, hw]
  · simpa using hkeys.symm
  · intro m hfound hsize
    exact ((Members.late_required hfound hsize).map _).seq (Members.late_required hfound hsize)
  · have hfirst : [(first, v), (second, w)].lookup first = some v := by simp
    have hsecond : [(first, v), (second, w)].lookup second = some w := by
      have hfalse : (second == first) = false := by simpa using hkeys
      simp [List.lookup_cons, hfalse]
    refine Placed.Gives.congr (.seq (.map (Members.gives_required hf hfirst depth) _)
      (Members.gives_required hg hsecond depth)) rfl ?_
    simp only [memberDepth, Nat.max_le, Nat.zero_le, and_true]

theorem asStructure_barrier (expected : List String) (read : Members → Placed α) :
    asStructure expected read (.fault .barrier) = .error .malformed := rfl

end EventFilter.Wire
