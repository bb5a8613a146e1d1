import EventFilter.Proofs.DataType.Wire
import EventFilter.Proofs.Offset.Map
import EventFilter.Synopsis.Partition

/-! Encoded summaries and the records in them decode to what they were made from. -/

namespace EventFilter

open Wire Wire.Members

/-- The positions in an offset are machine words. -/
def Offset.FitsWord (o : Offset) : Prop := ∀ i ∈ o, i < Nat.pow 2 64

instance (o : Offset) : Decidable o.FitsWord := 
  inferInstanceAs (Decidable (∀ i ∈ o, i < Nat.pow 2 64))

theorem Offset.recovers_toWire {o : Offset} (h : o.FitsWord) : Recovers Offset.ofWire o.toWire o :=
  recovers_list (fun i hi => recovers_natural (h i hi)) rfl

theorem Offset.isPlain_toWire (o : Offset) : o.toWire.isPlain := by
  refine plainItems_iff.mpr fun w hw => ?_
  obtain ⟨i, -, rfl⟩ := List.mem_map.mp hw
  rfl

theorem QualifiedField.isPlain_toWire (q : QualifiedField) : q.toWire.isPlain := by
  have ho := q.offset.isPlain_toWire
  have ht := q.type.isPlain_toWire
  simp [toWire, isPlain, plainMembers, ho, ht]

theorem Payload.isPlain_toWire (p : Payload) : p.toWire.isPlain := by
  have hblob : plainItems (p.blob.map fun b => .integer b.toNat) := by
    refine plainItems_iff.mpr fun w hw => ?_
    obtain ⟨b, -, rfl⟩ := List.mem_map.mp hw
    rfl
  simp [toWire, isPlain, plainMembers, hblob]

theorem QualifiedField.recovers_toWire {q : QualifiedField} (h : q.offset.FitsWord) :
    Recovers QualifiedField.ofWire q.toWire q := by
  refine recovers_structure q.isPlain_toWire (by simp) (by simp) ?_ fun depth => ?_
  · intro m hfound hsize
    have hlate : ∀ key (α : Type) (f : Wire → Except WireError α), (m.required key f).Late :=
      fun _ _ _ => late_required hfound hsize
    exact (((((hlate _ _ _).map _).seq (hlate _ _ _)).seq (hlate _ _ _)).seq (hlate _ _ _)).seq
      (hlate _ _ _)
  · refine Placed.Gives.congr (.seq (.seq (.seq (.seq (.map
      (gives_required (recovers_string q.schema) (by rfl) depth) _)
      (gives_required (recovers_string q.fingerprint) (by rfl) depth))
      (gives_required (Offset.recovers_toWire h) (by rfl) depth))
      (gives_required (recovers_string q.key) (by rfl) depth))
      (gives_required q.type.recovers_toWire (by rfl) depth)) rfl ?_
    simp only [memberDepth, Nat.max_le, Nat.zero_le, and_true, and_assoc]

theorem recovers_flags (flags : Bool × Bool) : Recovers flagsOfWire (flagsToWire flags) flags :=
  recovers_pair (by decide) (recovers_bool flags.1) (recovers_bool flags.2) rfl rfl

theorem recovers_range (range : Int64 × Int64) : Recovers rangeOfWire (rangeToWire range) range :=
  recovers_pair (by decide) (recovers_int64 range.1) (recovers_int64 range.2) rfl rfl

theorem Payload.recovers_toWire (p : Payload) : Recovers Payload.ofWire p.toWire p := by
  have hblob : Recovers (asList (asNatural 8)) (.array (p.blob.map fun b => .integer b.toNat))
      (p.blob.map UInt8.toNat) := by
    have hbyte : ∀ n ∈ p.blob.map UInt8.toNat, Recovers (asNatural 8) (.integer n) n := by
      intro n hn
      obtain ⟨b, -, rfl⟩ := List.mem_map.mp hn
      exact recovers_natural b.toNat_lt
    have hbytes := recovers_list hbyte rfl
    rw [List.map_map] at hbytes
    exact hbytes
  refine recovers_structure p.isPlain_toWire (by simp) (by simp) ?_ fun depth => ?_
  · intro m hfound hsize
    exact (((late_defaulted "" hfound).map _).seq (late_defaulted 0 hfound)).seq
      (late_required hfound hsize)
  · refine Placed.Gives.congr (.seq (.seq (.map
      (gives_defaulted (recovers_string p.name) "" (by rfl) depth) _)
      (gives_defaulted (recovers_natural p.version.toNat_lt) 0 (by rfl) depth))
      (gives_required hblob (by rfl) depth)) ?_ ?_
    · simp [Function.comp_def]
    · simp only [memberDepth, Nat.max_le, Nat.zero_le, and_true, and_assoc]

section

variable {α : Type} {toWire : α → Wire}

theorem memberDepth_optionalMember {name : String} {value : Option α} {depth : Nat} :
    memberDepth (optionalMember name toWire value) ≤ depth ↔
      ∀ a, value = some a → (toWire a).depth ≤ depth := by
  cases value <;> simp [optionalMember, memberDepth]

theorem plainMembers_optionalMember (name : String) (value : Option α)
    (h : ∀ a, (toWire a).isPlain) : plainMembers (optionalMember name toWire value) := by
  cases value <;> simp [optionalMember, plainMembers, h]

end

namespace SynopsisRecord

theorem isPlain_toWire (r : SynopsisRecord) : r.toWire.isPlain := by
  have hfield := r.field.isPlain_toWire
  have hbool := plainMembers_optionalMember "bool_synopsis" r.bool
    fun flags => (rfl : (flagsToWire flags).isPlain = true)
  have htime := plainMembers_optionalMember "time_synopsis" r.time
    fun range => (rfl : (rangeToWire range).isPlain = true)
  have hblob := plainMembers_optionalMember "opaque_synopsis" r.blob Payload.isPlain_toWire
  have hrest := plainMembers_append.mpr ⟨hbool, plainMembers_append.mpr ⟨htime, hblob⟩⟩
  simp [toWire, isPlain, plainMembers, hfield, hrest]

theorem recovers_toWire {r : SynopsisRecord} (h : r.field.offset.FitsWord) :
    Recovers SynopsisRecord.ofWire r.toWire r := by
  obtain ⟨field, bool, time, blob⟩ := r
  refine recovers_structure (isPlain_toWire ⟨field, bool, time, blob⟩) ?_ ?_ ?_ fun depth => ?_
  · cases bool <;> cases time <;> cases blob <;> simp [optionalMember]
  · cases bool <;> cases time <;> cases blob <;> simp [optionalMember]
  · intro m hfound hsize
    exact ((((late_required hfound hsize).map _).seq (late_defaulted none hfound)).seq
      (late_defaulted none hfound)).seq (late_defaulted none hfound)
  · refine Placed.Gives.congr (.seq (.seq (.seq (.map
      (gives_required (QualifiedField.recovers_toWire h) (by rfl) depth) _)
      (gives_optional (fun flags _ => (recovers_flags flags).some (by simp [flagsToWire])) ?_ depth))
      (gives_optional (fun range _ => (recovers_range range).some (by simp [rangeToWire])) ?_ depth))
      (gives_optional (fun p _ => p.recovers_toWire.some (by simp [Payload.toWire])) ?_ depth))
      rfl ?_
    · cases bool <;> cases time <;> cases blob <;> rfl
    · cases bool <;> cases time <;> cases blob <;> rfl
    · cases bool <;> cases time <;> cases blob <;> rfl
    · simp only [memberDepth, memberDepth_append, Nat.max_le, memberDepth_optionalMember, and_assoc]

end SynopsisRecord

namespace Partition

/-- The wire form of the parts of a summary. -/
def Encoded.toWire (e : Encoded) : Wire :=
  .object ([("schema", e.schema.toWire), ("events", .integer e.events.toNat)] ++
    (optionalMember "import_time" rangeToWire e.importTime ++
      [("synopses", .array (e.synopses.map SynopsisRecord.toWire))]))

theorem Encoded.isPlain_toWire (e : Encoded) : e.toWire.isPlain := by
  have hschema := e.schema.isPlain_toWire
  have htime := plainMembers_optionalMember "import_time" e.importTime
    fun range => (rfl : (rangeToWire range).isPlain = true)
  have hsynopses : plainItems (e.synopses.map SynopsisRecord.toWire) := by
    refine plainItems_iff.mpr fun w hw => ?_
    obtain ⟨r, -, rfl⟩ := List.mem_map.mp hw
    exact r.isPlain_toWire
  have hlast : plainMembers [("synopses", .array (e.synopses.map SynopsisRecord.toWire))] := by
    simp [plainMembers, isPlain, hsynopses]
  have hrest := plainMembers_append.mpr ⟨htime, hlast⟩
  simp [toWire, isPlain, plainMembers, hschema, hrest]

theorem Encoded.recovers_toWire {e : Encoded} (h : ∀ r ∈ e.synopses, r.field.offset.FitsWord) :
    Recovers Encoded.ofWire e.toWire e := by
  obtain ⟨schema, events, importTime, synopses⟩ := e
  have hevents : Encoded.mk schema (UInt64.ofNat events.toNat) importTime synopses =
      ⟨schema, events, importTime, synopses⟩ := by rw [UInt64.ofNat_toNat]
  have hsynopses := recovers_list (f := SynopsisRecord.ofWire)
    (fun r hr => SynopsisRecord.recovers_toWire (h r hr)) rfl
  refine recovers_structure (isPlain_toWire ⟨schema, events, importTime, synopses⟩) ?_ ?_ ?_
    fun depth => ?_
  · cases importTime <;> simp [optionalMember]
  · cases importTime <;> simp [optionalMember]
  · intro m hfound hsize
    exact ((((late_required hfound hsize).map _).seq (late_required hfound hsize)).seq
      (late_defaulted none hfound)).seq (late_required hfound hsize)
  · refine Placed.Gives.congr (.seq (.seq (.seq (.map
      (gives_required schema.recovers_toWire (by rfl) depth) _)
      (gives_required (recovers_natural events.toNat_lt) (by rfl) depth))
      (gives_optional (fun range _ => (recovers_range range).some (by simp [rangeToWire])) ?_ depth))
      (gives_required hsynopses ?_ depth)) hevents ?_
    · cases importTime <;> rfl
    · cases importTime <;> rfl
    · simp only [memberDepth, memberDepth_append, List.cons_append, List.nil_append, Nat.max_le,
        memberDepth_optionalMember, and_assoc, and_true, Nat.zero_le]

theorem readEncoded_text {e : Encoded} (h : ∀ r ∈ e.synopses, r.field.offset.FitsWord) :
    readEncoded e.toWire.text =
      if e.toWire.depth ≤ maxDepth then .ok e else .error .malformed :=
  decodeText_of_recovers (Encoded.recovers_toWire h) e.isPlain_toWire

end Partition

end EventFilter
