import EventFilter.Proofs.DataType.Wire
import EventFilter.Proofs.Wire.Nesting

/-! A data type nests no deeper, when it is written, than the value that it was decoded from: absent
parts of it are not written, and whatever is written was there. -/

namespace EventFilter

open Wire Wire.Members

theorem Attribute.confined : Confined Attribute.ofWire Attribute.toWire := by
  intro w depth a hw h
  obtain ⟨n, m, rfl, -, -⟩ := asStructure_within hw h fun m hfound =>
    ((fails_required hfound rfl).map _).seq _
  have hdepth : a.toWire.depth = 1 := by
    obtain ⟨key, value⟩ := a
    cases value <;> rfl
  omega

namespace DataType

/-- The wire form of the kind of a type. -/
def kindWire : DataType → Wire
  | scalar k _ => .string k.wireName
  | list t _ => .object [("List", t.toWire)]
  | record fs _ => .object [("Record", .array (fieldsToWire fs))]

theorem depth_setLabel (t : DataType) (l : Label) :
    (t.setLabel l).toWire.depth = max t.kindWire.depth (memberDepth (labelMembers l)) + 1 := by
  cases t <;> rfl

theorem depth_fieldToWire (f : Field) : (fieldToWire f).depth = f.2.toWire.depth + 1 := by
  simp [fieldToWire, Wire.depth, memberDepth]

theorem memberDepth_labelMembers (l : Label) : memberDepth (labelMembers l) =
    if l.attributes = [] then 0 else (Wire.array (l.attributes.map Attribute.toWire)).depth := by
  obtain ⟨name, attributes⟩ := l
  cases name <;> cases attributes <;> simp [labelMembers, memberDepth, Wire.depth]

variable {readType : Wire → Except WireError DataType}

theorem confined_field (h : Confined readType toWire) :
    Confined (fieldOfWire readType) fieldToWire := by
  intro w depth f hw hread
  obtain ⟨n, m, rfl, hread, hm⟩ := asStructure_within hw hread fun m hfound =>
    ((fails_required hfound rfl).map _).seq _
  obtain ⟨g, t, hg, ht, rfl⟩ := Placed.seq_eq_ok hread
  obtain ⟨name, -, rfl⟩ := Placed.map_eq_ok hg
  obtain ⟨place, v, hfound, hv⟩ := required_eq_ok ht
  rw [depth_fieldToWire]
  exact Nat.succ_le_succ (h (hm.of_lookup hfound) hv)

/-- A kind that was decoded is that of a scalar, or it was made from the one member of an object. -/
theorem kindOfWire_eq_ok {w : Wire} {t : DataType} (h : kindOfWire readType w = .ok t) :
    (∃ k, t = scalar k) ∨
    (∃ payload u, w = .object [("List", payload)] ∧ readType payload = .ok u ∧ t = list u) ∨
    ∃ payload fs, w = .object [("Record", payload)] ∧
      payload.asList (fieldOfWire readType) = .ok fs ∧ t = record fs := by
  unfold kindOfWire at h
  split at h
  · split at h
    · cases h
      exact .inl ⟨_, rfl⟩
    · cases h
  · rename_i variant payload rest
    cases hname : payload.nameless with
    | some e =>
      rw [hname] at h
      cases h
    | none =>
      cases rest with
      | cons e rest =>
        -- Whatever the first member is, nothing may follow it.
        simp only [hname] at h
        split at h
        · cases hread : readType payload <;> rw [hread] at h <;> cases h
        · cases hread : payload.asList (fieldOfWire readType) <;> rw [hread] at h <;> cases h
        · split at h <;> cases h
      | nil =>
        simp only [hname, bind_pure] at h
        split at h
        · cases hread : readType payload with
          | error e => rw [hread] at h; cases h
          | ok u =>
            rw [hread] at h
            cases h
            exact .inr (.inl ⟨payload, u, rfl, hread, rfl⟩)
        · cases hread : payload.asList (fieldOfWire readType) with
          | error e => rw [hread] at h; cases h
          | ok fs =>
            rw [hread] at h
            cases h
            exact .inr (.inr ⟨payload, fs, rfl, hread, rfl⟩)
        · split at h
          · cases h
            exact .inl ⟨_, rfl⟩
          · cases h
          · cases h
  · cases h
  · cases h
  · cases h

theorem confined_kind (h : Confined readType toWire) :
    Confined (kindOfWire readType) kindWire := by
  intro w depth t hw hread
  rcases kindOfWire_eq_ok hread with ⟨k, rfl⟩ | ⟨payload, u, rfl, hu, rfl⟩ |
    ⟨payload, fs, rfl, hfs, rfl⟩
  · exact Nat.zero_le depth
  · cases depth with
    | zero =>
      obtain ⟨members, hmembers⟩ := hw
      simp at hmembers
    | succ n =>
      have hpayload : payload.Within n := hw.1
      have hdepth : (list u).kindWire.depth = u.toWire.depth + 1 := by
        simp [kindWire, Wire.depth, memberDepth]
      rw [hdepth]
      exact Nat.succ_le_succ (h hpayload hu)
  · cases depth with
    | zero =>
      obtain ⟨members, hmembers⟩ := hw
      simp at hmembers
    | succ n =>
      have hpayload : payload.Within n := hw.1
      have hdepth : (record fs).kindWire.depth =
          (Wire.array (fs.map fieldToWire)).depth + 1 := by
        simp [kindWire, Wire.depth, memberDepth, fieldsToWire_eq_map]
      rw [hdepth]
      exact Nat.succ_le_succ (confined_list (confined_field h) rfl hpayload hfs)

theorem confined_decode (levels : Nat) : Confined (decode levels) toWire := by
  induction levels with
  | zero =>
    intro w depth t hw hread
    cases hread
  | succ levels ih =>
    intro w depth t hw hread
    obtain ⟨n, m, rfl, hread, hm⟩ := asStructure_within hw hread fun m hfound =>
      (((fails_required hfound rfl).map _).seq _).seq _
    obtain ⟨f, attributes, hf, hattributes, rfl⟩ := Placed.seq_eq_ok hread
    obtain ⟨g, name, hg, -, rfl⟩ := Placed.seq_eq_ok hf
    obtain ⟨kind, hkind, rfl⟩ := Placed.map_eq_ok hg
    obtain ⟨place, v, hfound, hv⟩ := required_eq_ok hkind
    have hkindDepth := confined_kind ih (hm.of_lookup hfound) hv
    have hlabel : memberDepth (labelMembers { name, attributes }) ≤ n := by
      rw [memberDepth_labelMembers]
      split
      · exact Nat.zero_le n
      · rename_i hne
        rcases defaulted_eq_ok hattributes with hnone | ⟨place, v, hfound, hv⟩
        · exact absurd hnone hne
        · exact confined_list Attribute.confined rfl (hm.of_lookup hfound) hv
    rw [depth_setLabel]
    exact Nat.succ_le_succ (Nat.max_le.mpr ⟨hkindDepth, hlabel⟩)

theorem confined_ofWire : Confined ofWire toWire := by
  intro w depth t hw hread
  exact confined_decode (w.depth + 1) hw hread

end DataType

end EventFilter
