import EventFilter.Proofs.DataType.Nesting
import EventFilter.Proofs.Synopsis.Encoding

/-! How deep summaries nest when they are written: as deep as their schemas do, and one level more.
What was decoded from some text has a schema and offsets that were in the text. -/

namespace EventFilter

open Wire Wire.Members

theorem DataType.depth_toWire_pos (t : DataType) : 0 < t.toWire.depth := by
  cases t <;> exact Nat.succ_pos _

namespace Schema

mutual

theorem depth_le_of_mem_typeLeaves : (t : DataType) → (o : Offset) → (key : String) →
    ∀ leaf ∈ typeLeaves o key t, leaf.type.toWire.depth ≤ t.toWire.depth
  | .scalar k l, o, key, leaf, h => by
    obtain rfl : leaf = ⟨o, key, .scalar k l⟩ := by simpa [typeLeaves] using h
    exact Nat.le_refl _
  | .list t l, o, key, leaf, h => by
    obtain rfl : leaf = ⟨o, key, .list t l⟩ := by simpa [typeLeaves] using h
    exact Nat.le_refl _
  | .record fs l, o, key, leaf, h => by
    have hfields := depth_lt_of_mem_fieldLeaves fs o key 0 leaf (by simpa [typeLeaves] using h)
    simp only [DataType.toWire, Wire.depth, memberDepth]
    omega

theorem depth_lt_of_mem_fieldLeaves : (fs : List Field) → (o : Offset) → (key : String) →
    (i : Nat) → ∀ leaf ∈ fieldLeaves o key i fs,
      leaf.type.toWire.depth < itemDepth (DataType.fieldsToWire fs)
  | [], o, key, i, leaf, h => by simp [fieldLeaves] at h
  | (name, t) :: fs, o, key, i, leaf, h => by
    have hfirst : t.toWire.depth < (DataType.fieldToWire (name, t)).depth := by
      rw [DataType.depth_fieldToWire]
      exact Nat.lt_succ_self _
    show _ < max (DataType.fieldToWire (name, t)).depth (itemDepth (DataType.fieldsToWire fs))
    rcases List.mem_append.mp (by simpa [fieldLeaves] using h) with h | h
    · have htype := depth_le_of_mem_typeLeaves t _ _ leaf h
      omega
    · have hrest := depth_lt_of_mem_fieldLeaves fs o key (i + 1) leaf h
      omega

end

variable {s : Schema}

/-- Around a field there are the list of fields, the kind and the schema. -/
theorem itemDepth_fields_le (s : Schema) :
    itemDepth (DataType.fieldsToWire s.fields) + 3 ≤ s.toType.toWire.depth := by
  simp only [toType, DataType.toWire, Wire.depth, memberDepth]
  omega

theorem depth_of_mem_leaves {leaf : Leaf} (h : leaf ∈ s.leaves) :
    leaf.type.toWire.depth + 4 ≤ s.toType.toWire.depth := by
  have hleaf := depth_lt_of_mem_fieldLeaves s.fields [] "" 0 leaf h
  have hfields := s.itemDepth_fields_le
  omega

end Schema

theorem itemDepth_integers {α : Type} (items : List α) (value : α → Int) :
    itemDepth (items.map fun a => .integer (value a)) = 0 := by
  induction items with
  | nil => rfl
  | cons a rest ih => simp [itemDepth, Wire.depth, ih]

theorem QualifiedField.depth_toWire (q : QualifiedField) :
    q.toWire.depth = q.type.toWire.depth + 1 := by
  have htype := q.type.depth_toWire_pos
  have hoffset := itemDepth_integers q.offset fun (i : Nat) => i
  simp only [toWire, Offset.toWire, Wire.depth, memberDepth, hoffset]
  omega

theorem Payload.depth_toWire (p : Payload) : p.toWire.depth = 2 := by
  have hblob := itemDepth_integers p.blob fun b => b.toNat
  simp only [toWire, Wire.depth, memberDepth, hblob]
  rfl

/-- The type nests deepest in a record. -/
theorem SynopsisRecord.depth_toWire (r : SynopsisRecord) :
    r.toWire.depth = r.field.type.toWire.depth + 2 := by
  have htype := r.field.type.depth_toWire_pos
  have hbool : memberDepth (optionalMember "bool_synopsis" flagsToWire r.bool) ≤ 2 :=
    memberDepth_optionalMember.mpr fun flags _ => Nat.le_succ 1
  have htime : memberDepth (optionalMember "time_synopsis" rangeToWire r.time) ≤ 2 :=
    memberDepth_optionalMember.mpr fun range _ => Nat.le_succ 1
  have hblob : memberDepth (optionalMember "opaque_synopsis" Payload.toWire r.blob) ≤ 2 :=
    memberDepth_optionalMember.mpr fun payload _ => Nat.le_of_eq payload.depth_toWire
  simp only [toWire, Wire.depth, memberDepth, memberDepth_append, r.field.depth_toWire]
  omega

theorem SynopsisRecord.field_of_pack {q : QualifiedField} {u : Synopsis} {r : SynopsisRecord}
    (h : pack q u = .ok r) : r.field = q := by
  unfold pack at h
  split at h
  · cases h
    rfl
  · cases h
    rfl
  · split at h
    · cases h
      rfl
    · cases h

theorem asNatural_lt {width n : Nat} {w : Wire} (h : asNatural width w = .ok n) :
    n < Nat.pow 2 width := by
  unfold asNatural at h
  split at h
  · rename_i i hread
    cases h
    unfold asInteger at hread
    split at hread
    · split at hread
      · rename_i hbounds
        cases hread
        have hsize : 1 <<< width = Nat.pow 2 width := Nat.one_shiftLeft width
        omega
      · cases hread
    · cases hread
  · cases h

theorem Offset.fitsWord_of_ofWire {o : Offset} {w : Wire} (h : ofWire w = .ok o) : o.FitsWord := by
  obtain ⟨items, -, hitems⟩ := asList_eq_ok h
  intro i hi
  obtain ⟨v, -, hread⟩ := eachItem_eq_ok hitems i hi
  exact asNatural_lt hread

theorem QualifiedField.fitsWord_of_ofWire {q : QualifiedField} {w : Wire} (h : ofWire w = .ok q) :
    q.offset.FitsWord := by
  obtain ⟨m, hread⟩ := exists_of_asStructure h
  obtain ⟨f, type, hf, -, rfl⟩ := Placed.seq_eq_ok hread
  obtain ⟨g, key, hg, -, rfl⟩ := Placed.seq_eq_ok hf
  obtain ⟨k, offset, hk, hoffset, rfl⟩ := Placed.seq_eq_ok hg
  obtain ⟨l, fingerprint, hl, -, rfl⟩ := Placed.seq_eq_ok hk
  obtain ⟨schema, -, rfl⟩ := Placed.map_eq_ok hl
  obtain ⟨place, v, -, hv⟩ := required_eq_ok hoffset
  exact Offset.fitsWord_of_ofWire hv

theorem SynopsisRecord.fitsWord_of_ofWire {r : SynopsisRecord} {w : Wire} (h : ofWire w = .ok r) :
    r.field.offset.FitsWord := by
  obtain ⟨m, hread⟩ := exists_of_asStructure h
  obtain ⟨f, blob, hf, -, rfl⟩ := Placed.seq_eq_ok hread
  obtain ⟨g, time, hg, -, rfl⟩ := Placed.seq_eq_ok hf
  obtain ⟨k, bool, hk, -, rfl⟩ := Placed.seq_eq_ok hg
  obtain ⟨field, hfield, rfl⟩ := Placed.map_eq_ok hk
  obtain ⟨place, v, -, hv⟩ := required_eq_ok hfield
  exact QualifiedField.fitsWord_of_ofWire hv

namespace Partition

variable {p : Partition} {f : Factory} {s : Schema} {es : List (Offset × Synopsis)}

theorem packAll_eq_ok {name : String} {fields : List QualifiedField} {rs : List SynopsisRecord}
    (h : packAll name fields es = .ok rs) :
    (∀ o u, (o, u) ∈ es → ∃ q ∈ fields, q.offset = o) ∧ ∀ r ∈ rs, r.field ∈ fields := by
  induction es generalizing rs with
  | nil =>
    cases h
    simp
  | cons e rest ih =>
    obtain ⟨o, u⟩ := e
    rw [packAll] at h
    split at h
    · cases h
    · rename_i q hq
      split at h
      · cases h
      · rename_i r hpack
        split at h
        · rename_i tail htail
          cases h
          obtain ⟨hplaces, hfields⟩ := ih htail
          have hoffset : q.offset = o := by simpa using List.find?_some hq
          have hmem := List.mem_of_find?_eq_some hq
          have hfield := SynopsisRecord.field_of_pack hpack
          constructor
          · intro o' u' hu
            rcases List.mem_cons.mp hu with heq | hu
            · cases heq
              exact ⟨q, hmem, hoffset⟩
            · exact hplaces o' u' hu
          · exact List.forall_mem_cons.mpr ⟨hfield ▸ hmem, hfields⟩
        · cases h

/-- The schema nests deepest in a summary. -/
theorem depth_of_toWire {w : Wire} (h : p.toWire = .ok w) :
    w.depth = p.schema.toType.toWire.depth + 1 := by
  unfold Partition.toWire at h
  split at h
  · cases h
  · rename_i rs hpack
    cases h
    have htime : memberDepth (optionalMember "import_time" rangeToWire p.importTime) ≤ 1 :=
      memberDepth_optionalMember.mpr fun range _ => Nat.le_refl 1
    -- A record has two containers around the type of a leaf, the schema has four.
    have hrecords : itemDepth (rs.map SynopsisRecord.toWire) + 2 ≤ p.schema.toType.toWire.depth := by
      have hschema := p.schema.itemDepth_fields_le
      have hitems : itemDepth (rs.map SynopsisRecord.toWire) ≤ p.schema.toType.toWire.depth - 2 := by
        refine itemDepth_le_iff.mpr fun w hw => ?_
        obtain ⟨r, hr, rfl⟩ := List.mem_map.mp hw
        obtain ⟨leaf, hleaf, hfield⟩ := List.mem_map.mp ((packAll_eq_ok hpack).2 r hr)
        have hdepth := Schema.depth_of_mem_leaves hleaf
        rw [r.depth_toWire, ← hfield]
        show leaf.type.toWire.depth + 2 ≤ _
        omega
      omega
    simp only [Wire.depth, memberDepth_append, memberDepth]
    omega

theorem encoded_within {w : Wire} {depth : Nat} {e : Encoded} (hw : w.Within depth)
    (h : Encoded.ofWire w = .ok e) :
    e.schema.toWire.depth < depth ∧ ∀ r ∈ e.synopses, r.field.offset.FitsWord := by
  obtain ⟨n, m, rfl, hread, hm⟩ := asStructure_within hw h fun m hfound =>
    ((((fails_required hfound rfl).map _).seq _).seq _).seq _
  obtain ⟨f, synopses, hf, hsynopses, rfl⟩ := Placed.seq_eq_ok hread
  obtain ⟨g, importTime, hg, -, rfl⟩ := Placed.seq_eq_ok hf
  obtain ⟨k, events, hk, -, rfl⟩ := Placed.seq_eq_ok hg
  obtain ⟨schema, hschema, rfl⟩ := Placed.map_eq_ok hk
  constructor
  · obtain ⟨place, v, hfound, hv⟩ := required_eq_ok hschema
    exact Nat.lt_succ_of_le (DataType.confined_ofWire (hm.of_lookup hfound) hv)
  · obtain ⟨place, v, -, hv⟩ := required_eq_ok hsynopses
    obtain ⟨items, -, hitems⟩ := asList_eq_ok hv
    intro r hr
    obtain ⟨v, -, hrecord⟩ := eachItem_eq_ok hitems r hr
    exact SynopsisRecord.fitsWord_of_ofWire hrecord

end Partition

end EventFilter
