import EventFilter.Proofs.Synopsis.Nesting
import EventFilter.Proofs.Synopsis.Recoding

/-! Summaries that were decoded from any text, and when they can be encoded again. -/

namespace EventFilter

open Wire

namespace Partition

variable {p : Partition} {f : Factory}

theorem exists_insertAll_iff {fingerprint : String} {q : Partition} {rs : List SynopsisRecord} :
    (∃ built, insertAll f fingerprint q rs = .ok built) ↔
      ∀ r ∈ rs, r.field.fingerprint = fingerprint ∧ ∃ u, r.unpack f = .ok u := by
  induction rs generalizing q with
  | nil => simp [insertAll]
  | cons r rest ih =>
    rw [List.forall_mem_cons, insertAll]
    cases hunpack : r.unpack f with
    | error err => simp
    | ok u =>
      by_cases hfingerprint : r.field.fingerprint = fingerprint
      · have hrest := ih (q := q.insert r.field.offset u)
        simp [hfingerprint, hrest]
      · simp [hfingerprint]

/-- Of a record its fingerprint is checked and that it has contents, but neither its offset nor its
type. -/
theorem exists_ofEncoded_iff {e : Encoded} :
    (∃ p, ofEncoded f e = .ok p) ↔ ∃ s : Schema, e.schema = s.toType ∧
      ∀ r ∈ e.synopses, r.field.fingerprint = s.fingerprint ∧ ∃ u, r.unpack f = .ok u := by
  unfold ofEncoded
  cases hschema : Schema.ofType? e.schema with
  | none =>
    have hnone : ∀ s : Schema, e.schema ≠ s.toType := by
      intro s hs
      rw [hs, Schema.ofType?_toType] at hschema
      cases hschema
    simp [hnone]
  | some schema =>
    have htype := Schema.ofType?_eq_some_iff.mp hschema
    constructor
    · intro haccepted
      exact ⟨schema, htype, exists_insertAll_iff.mp haccepted⟩
    · rintro ⟨s, hs, hrecords⟩
      obtain rfl : schema = s := Schema.toType_injective (htype.symm.trans hs)
      exact exists_insertAll_iff.mpr hrecords

theorem entries_of_insertAll {fingerprint : String} {q built : Partition}
    {rs : List SynopsisRecord} (h : insertAll f fingerprint q rs = .ok built) :
    built.schema = q.schema ∧ ∀ o u, (o, u) ∈ built.synopses.entries →
      (o, u) ∈ q.synopses.entries ∨ ∃ r ∈ rs, r.field.offset = o ∧ r.unpack f = .ok u := by
  induction rs generalizing q with
  | nil =>
    cases h
    exact ⟨rfl, fun o u hu => .inl hu⟩
  | cons r rest ih =>
    rw [insertAll] at h
    split at h
    · cases h
    · rename_i s hunpack
      split at h
      · obtain ⟨hschema, hentries⟩ := ih h
        refine ⟨hschema, fun o u hu => ?_⟩
        rcases hentries o u hu with hold | ⟨r', hr', hfrom⟩
        · rcases OffsetMap.mem_entries_insert hold with ⟨rfl, rfl⟩ | hold
          · exact .inr ⟨r, by simp, rfl, hunpack⟩
          · exact .inl hold
        · exact .inr ⟨r', List.mem_cons_of_mem _ hr', hfrom⟩
      · cases h

/-- A factory without decoders makes no synopsis that its own record would not give back. -/
theorem returns_of_unpack (hf : f.decoders = []) {r : SynopsisRecord} {u : Synopsis}
    (h : r.unpack f = .ok u) : (∀ c, u ≠ .custom c) ∧ ∀ t, u.Returns f t := by
  have hsealed : ∀ t v (q : Payload), (Synopsis.sealed v q).Returns f t := by
    intro t v q decode hdecode
    rw [hf] at hdecode
    cases hdecode
  unfold SynopsisRecord.unpack at h
  split at h
  · cases h
    exact ⟨by simp, fun t => trivial⟩
  · cases h
    exact ⟨by simp, fun t => trivial⟩
  · rename_i q _ _ _
    have hrestore : f.restore r.field.type q = .sealed r.field.type q := by
      rw [Factory.restore, hf]
      rfl
    cases h
    rw [hrestore]
    exact ⟨by simp, fun t => hsealed t _ q⟩
  · cases h

/-- What holds of every summary that was decoded, whatever the text was. -/
structure Decoded (f : Factory) (p : Partition) : Prop where
  nests : p.schema.toType.toWire.depth < maxDepth
  fitsWord : ∀ o u, (o, u) ∈ p.synopses.entries → o.FitsWord
  builtIn : ∀ o u, (o, u) ∈ p.synopses.entries → ∀ c, u ≠ .custom c
  returns : ∀ o u, (o, u) ∈ p.synopses.entries → ∀ t, u.Returns f t

theorem decoded_of_decode (hf : f.decoders = []) {text : String} (h : decode f text = .ok p) :
    p.Decoded f := by
  unfold decode at h
  split at h
  · rename_i e hread
    obtain ⟨w, hw, hencoded⟩ := decodeText_eq_ok hread
    obtain ⟨hdepth, hwords⟩ := encoded_within hw hencoded
    unfold ofEncoded at h
    split at h
    · cases h
    · rename_i schema hschema
      obtain ⟨hsame, hentries⟩ := entries_of_insertAll h
      have hrecord : ∀ o u, (o, u) ∈ p.synopses.entries →
          ∃ r ∈ e.synopses, r.field.offset = o ∧ r.unpack f = .ok u := by
        intro o u hu
        rcases hentries o u hu with hnone | hfrom
        · cases hnone
        · exact hfrom
      refine ⟨?_, fun o u hu => ?_, fun o u hu => ?_, fun o u hu => ?_⟩
      · rw [Schema.ofType?_eq_some_iff] at hschema
        rw [hsame, ← hschema]
        exact hdepth
      · obtain ⟨r, hr, rfl, -⟩ := hrecord o u hu
        exact hwords r hr
      · obtain ⟨r, -, -, hunpack⟩ := hrecord o u hu
        exact (returns_of_unpack hf hunpack).1
      · obtain ⟨r, -, -, hunpack⟩ := hrecord o u hu
        exact (returns_of_unpack hf hunpack).2
  · cases h

theorem Decoded.encode_eq_ok (h : p.Decoded f)
    (hleaf : ∀ o u, (o, u) ∈ p.synopses.entries → ∃ leaf ∈ p.schema.leaves, leaf.offset = o) :
    ∃ again, p.encode = .ok again ∧ decode f again = .ok p.retyped := by
  obtain ⟨e, hwire, hdecode⟩ :=
    exists_encoded hleaf h.fitsWord fun o u hu => h.returns o u hu (typeAt p.schema o u.type)
  -- The schema was read from a text that nests one level deeper itself.
  have hdepth : e.toWire.depth ≤ maxDepth := by
    rw [depth_of_toWire hwire]
    exact h.nests
  rw [if_pos hdepth] at hdecode
  refine ⟨e.toWire.text, ?_, hdecode⟩
  rw [encode, hwire]
  rfl

theorem leaves_of_encode {text : String} (h : p.encode = .ok text) :
    ∀ o u, (o, u) ∈ p.synopses.entries → ∃ leaf ∈ p.schema.leaves, leaf.offset = o := by
  unfold encode at h
  cases hwire : p.toWire with
  | error err => rw [hwire] at h; cases h
  | ok w =>
    unfold Partition.toWire at hwire
    split at hwire
    · cases hwire
    · rename_i rs hpack
      intro o u hu
      obtain ⟨q, hq, rfl⟩ := (packAll_eq_ok hpack).1 o u hu
      obtain ⟨leaf, hleaf, rfl⟩ := List.mem_map.mp hq
      exact ⟨leaf, hleaf, rfl⟩

theorem decoded_summary_recodes_iff {bool time : Bool} {text : String}
    (h : decode (.withSummaries bool time) text = .ok p) :
    ((∃ again, p.encode = .ok again) ↔
      ∀ o u, (o, u) ∈ p.synopses.entries → ∃ leaf ∈ p.schema.leaves, leaf.offset = o) ∧
    ((∃ again, p.encode = .ok again ∧ decode (.withSummaries bool time) again = .ok p) ↔
      ∀ o u, (o, u) ∈ p.synopses.entries →
        ∃ leaf ∈ p.schema.leaves, leaf.offset = o ∧ u.type = leaf.type) := by
  have hbuiltIn : (Factory.withSummaries bool time).decoders = [] := by
    cases bool <;> cases time <;> rfl
  have hdecoded := decoded_of_decode hbuiltIn h
  have hretyped := retyped_eq_self_iff hdecoded.builtIn
  constructor
  · constructor
    · rintro ⟨again, hencode⟩
      exact leaves_of_encode hencode
    · intro hleaf
      obtain ⟨again, hencode, -⟩ := hdecoded.encode_eq_ok hleaf
      exact ⟨again, hencode⟩
  · constructor
    · rintro ⟨again, hencode, hagain⟩ o u hu
      have hleaves := leaves_of_encode hencode
      obtain ⟨again', hencode', hagain'⟩ := hdecoded.encode_eq_ok hleaves
      obtain rfl : again' = again := Except.ok.inj (hencode'.symm.trans hencode)
      have hsame : p.retyped = p := Except.ok.inj (hagain'.symm.trans hagain)
      obtain ⟨leaf, hleaf, rfl⟩ := hleaves o u hu
      have htype := hretyped.mp hsame leaf.offset u hu
      rw [typeAt_of_mem_leaves hleaf] at htype
      exact ⟨leaf, hleaf, rfl, htype⟩
    · intro hplaced
      obtain ⟨again, hencode, hagain⟩ := hdecoded.encode_eq_ok fun o u hu =>
        (hplaced o u hu).imp fun leaf hleaf => ⟨hleaf.1, hleaf.2.1⟩
      have hsame : p.retyped = p := by
        refine hretyped.mpr fun o u hu => ?_
        obtain ⟨leaf, hleaf, rfl, htype⟩ := hplaced o u hu
        rw [typeAt_of_mem_leaves hleaf, htype]
      exact ⟨again, hencode, hsame ▸ hagain⟩

def eventSchema : Schema where
  name := "events"
  fields := [("ts", .scalar .time), ("ok", .scalar .bool)]

/-- A record that has the fingerprint of the schema and an offset beyond its fields. -/
def strayRecord : SynopsisRecord where
  field :=
    { schema := "events", fingerprint := eventSchema.fingerprint, offset := [7], key := "ok",
      type := .scalar .bool }
  bool := some (true, false)

def strayParts : Encoded where
  schema := eventSchema.toType
  events := 3
  importTime := none
  synopses := [strayRecord]

def strayPartition : Partition where
  schema := eventSchema
  synopses := OffsetMap.empty.insert [7] (.bool ⟨.scalar .bool, true, false⟩)
  events := 3

theorem stray_summary_is_decoded_and_not_encoded :
    decode (.withSummaries true true) strayParts.toWire.text = .ok strayPartition ∧
      ¬ ∃ again, strayPartition.encode = .ok again := by
  have hread : readEncoded strayParts.toWire.text = .ok strayParts := by
    rw [readEncoded_text (by decide), if_pos (by decide)]
  have hdecode : decode (.withSummaries true true) strayParts.toWire.text = .ok strayPartition := by
    have hschema : Schema.ofType? strayParts.schema = some eventSchema := rfl
    have hinsert : insertAll (.withSummaries true true) eventSchema.fingerprint
        { schema := eventSchema, events := 3 } [strayRecord] = .ok strayPartition := by
      simp only [strayRecord, insertAll, SynopsisRecord.unpack, if_true]
      rfl
    have hparts : ofEncoded (.withSummaries true true) strayParts = .ok strayPartition := by
      rw [ofEncoded, hschema]
      exact hinsert
    rw [decode, hread]
    exact hparts
  refine ⟨hdecode, fun hencode => ?_⟩
  obtain ⟨leaf, hleaf, hoffset⟩ := (decoded_summary_recodes_iff hdecode).1.mp hencode [7] _ (.head _)
  simp [strayPartition, eventSchema, Schema.leaves, Schema.fieldLeaves, Schema.typeLeaves] at hleaf
  rcases hleaf with rfl | rfl
  · cases hoffset
  · cases hoffset

end Partition

end EventFilter
