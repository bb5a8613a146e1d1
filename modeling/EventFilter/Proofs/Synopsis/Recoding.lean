import EventFilter.Proofs.Schema.Leaves
import EventFilter.Proofs.Synopsis.Encoding

/-! Summaries that are encoded and decoded again. What sits at the leaves of the schema comes back,
with the types of the leaves. -/

namespace EventFilter

namespace QualifiedField

variable {s : Schema} {o : Offset} {q : QualifiedField}

/-- The field at an offset is there exactly for leaves, with the type of the leaf. -/
theorem of?_eq_some (h : of? s o = some q) : q.offset = o ∧ q.fingerprint = s.fingerprint ∧
    ∃ leaf ∈ s.leaves, leaf.offset = o ∧ leaf.type = q.type := by
  have hoffset : q.offset = o := by simpa using List.find?_some h
  obtain ⟨leaf, hleaf, rfl⟩ := List.mem_map.mp (List.mem_of_find?_eq_some h)
  exact ⟨hoffset, rfl, leaf, hleaf, hoffset, rfl⟩

theorem exists_of? {leaf : Leaf} (h : leaf ∈ s.leaves) : ∃ q, of? s leaf.offset = some q := by
  have hsome : (of? s leaf.offset).isSome := by
    rw [of?, List.find?_isSome]
    exact ⟨_, List.mem_map_of_mem h, by simp⟩
  exact Option.isSome_iff_exists.mp hsome

end QualifiedField

/-- One offset has one type. -/
theorem Schema.type_eq_of_offset_eq {s : Schema} {a b : Leaf} (ha : a ∈ s.leaves) (hb : b ∈ s.leaves)
    (h : a.offset = b.offset) : a.type = b.type := by
  obtain ⟨name, hfirst⟩ := field?_of_mem_leaves ha
  obtain ⟨name', hsecond⟩ := field?_of_mem_leaves hb
  rw [h, hsecond] at hfirst
  exact (congrArg Prod.snd (Option.some.inj hfirst)).symm

namespace Synopsis

/-- The same contents for a column of another type. -/
def retype (t : DataType) : Synopsis → Synopsis
  | bool s => bool { s with type := t }
  | time s => time { s with type := t }
  | sealed _ p => sealed t p
  | custom s => custom s

theorem retype_type (s : Synopsis) : s.retype s.type = s := by cases s <;> rfl

theorem type_eq_of_retype_eq {s : Synopsis} {t : DataType} (h : s.retype t = s)
    (hcustom : ∀ c, s ≠ custom c) : s.type = t := by
  cases s with
  | bool b => exact (congrArg type h).symm
  | time r => exact (congrArg type h).symm
  | sealed u p => exact (congrArg type h).symm
  | custom c => exact absurd rfl (hcustom c)

/-- The synopsis comes back from its own record: it is built in, or sealed in a payload that no
decoder of the factory can read. -/
def Returns (f : Factory) (t : DataType) : Synopsis → Prop
  | sealed _ p => ∀ decode, f.decoders.lookup p.name = some decode → ∃ err, decode t p = .error err
  | custom _ => False
  | _ => True

end Synopsis

theorem Factory.restore_of_returns {f : Factory} {t u : DataType} {p : Payload}
    (h : (Synopsis.sealed u p).Returns f t) : f.restore t p = .sealed t p := by
  unfold restore
  cases hlookup : f.decoders.lookup p.name with
  | none => rfl
  | some decode =>
    obtain ⟨err, herr⟩ := h decode hlookup
    simp only [herr]

theorem SynopsisRecord.exists_pack {f : Factory} {q : QualifiedField} {s : Synopsis}
    (h : s.Returns f q.type) :
    ∃ r, pack q s = .ok r ∧ r.field = q ∧ r.unpack f = .ok (s.retype q.type) := by
  cases s with
  | bool b => exact ⟨_, rfl, rfl, rfl⟩
  | time t => exact ⟨_, rfl, rfl, rfl⟩
  | sealed t p =>
    have hrestore := Factory.restore_of_returns h
    exact ⟨_, rfl, rfl, congrArg Except.ok hrestore⟩
  | custom s => exact absurd h id

namespace Partition

variable {p q : Partition} {f : Factory} {s : Schema} {es : List (Offset × Synopsis)}

/-- The type of the field at an offset, if there is one. -/
def typeAt (s : Schema) (o : Offset) (default : DataType) : DataType :=
  ((s.field? o).map (·.2)).getD default

theorem typeAt_of_mem_leaves {leaf : Leaf} (h : leaf ∈ s.leaves) (default : DataType) :
    typeAt s leaf.offset default = leaf.type := by
  obtain ⟨name, hfield⟩ := Schema.field?_of_mem_leaves h
  simp [typeAt, hfield]

/-- The summary with the types of the leaves. -/
def retyped (p : Partition) : Partition :=
  { p with synopses := p.synopses.map fun o u => u.retype (typeAt p.schema o u.type) }

/-- Every record takes its synopsis back to its place, behind those that are there. -/
theorem exists_packAll (hleaf : ∀ o u, (o, u) ∈ es → ∃ leaf ∈ s.leaves, leaf.offset = o)
    (hreturns : ∀ o u, (o, u) ∈ es → u.Returns f (typeAt s o u.type))
    (hq : (q.synopses.entries ++ es).Pairwise fun a b => Offset.before a.1 b.1) :
    ∃ rs, packAll s.name (QualifiedField.all s) es = .ok rs ∧
      (∀ r ∈ rs, ∃ u, (r.field.offset, u) ∈ es) ∧
      ∃ built, insertAll f s.fingerprint q rs = .ok built ∧ built.schema = q.schema ∧
        built.events = q.events ∧ built.importTime = q.importTime ∧
        built.synopses.entries =
          q.synopses.entries ++ es.map fun e => (e.1, e.2.retype (typeAt s e.1 e.2.type)) := by
  induction es generalizing q with
  | nil => exact ⟨[], rfl, by simp, q, rfl, rfl, rfl, rfl, by simp⟩
  | cons e rest ih =>
    obtain ⟨o, u⟩ := e
    obtain ⟨leaf, hmem, rfl⟩ := hleaf o u (by simp)
    obtain ⟨field, hfield⟩ := QualifiedField.exists_of? hmem
    obtain ⟨hoffset, hfingerprint, leaf', hmem', hsame, htype⟩ := QualifiedField.of?_eq_some hfield
    have hfieldType : field.type = typeAt s leaf.offset u.type := by
      rw [typeAt_of_mem_leaves hmem, ← htype]
      exact Schema.type_eq_of_offset_eq hmem' hmem hsame
    obtain ⟨r, hpack, hr, hunpack⟩ :=
      SynopsisRecord.exists_pack (f := f) (q := field) (hfieldType ▸ hreturns leaf.offset u (by simp))
    -- The record goes behind all that was inserted before.
    have hlast : (q.insert leaf.offset (u.retype field.type)).synopses.entries =
        q.synopses.entries ++ [(leaf.offset, u.retype field.type)] := by
      refine OffsetMap.insertEntry_of_last fun e he => ?_
      exact (List.pairwise_append.mp hq).2.2 e he (leaf.offset, u) (by simp)
    have hnext : ((q.insert leaf.offset (u.retype field.type)).synopses.entries ++ rest).Pairwise
        fun a b => Offset.before a.1 b.1 := by
      rw [hlast]
      exact OffsetMap.pairwise_of_map_fst_eq (by simp) hq
    obtain ⟨rs, hpackAll, hrs, built, hinsert, hschema, hevents, htimes, hentries⟩ :=
      ih (fun o u h => hleaf o u (List.mem_cons_of_mem _ h))
        (fun o u h => hreturns o u (List.mem_cons_of_mem _ h)) hnext
    refine ⟨r :: rs, ?_, ?_, built, ?_, hschema, hevents, htimes, ?_⟩
    · have hfind : (QualifiedField.all s).find? (·.offset == leaf.offset) = some field := hfield
      simp only [packAll, hfind, hpack, hpackAll]
    · refine List.forall_mem_cons.mpr ⟨⟨u, by simp [hr, hoffset]⟩, fun r hr => ?_⟩
      obtain ⟨u, hu⟩ := hrs r hr
      exact ⟨u, List.mem_cons_of_mem _ hu⟩
    · simp only [insertAll, hunpack, hr, hoffset, hfingerprint, if_true]
      exact hinsert
    · rw [hentries, hlast, List.append_assoc, List.map_cons, ← hfieldType]
      rfl

/-- Encoding a summary and decoding the text gives the summary with the types of the leaves, unless
the text nests too deep. -/
theorem exists_encoded (hleaf : ∀ o u, (o, u) ∈ p.synopses.entries →
      ∃ leaf ∈ p.schema.leaves, leaf.offset = o)
    (hword : ∀ o u, (o, u) ∈ p.synopses.entries → o.FitsWord)
    (hreturns : ∀ o u, (o, u) ∈ p.synopses.entries → u.Returns f (typeAt p.schema o u.type)) :
    ∃ e : Encoded, p.toWire = .ok e.toWire ∧ decode f e.toWire.text =
      if e.toWire.depth ≤ Wire.maxDepth then .ok p.retyped else .error (.wire .malformed) := by
  obtain ⟨rs, hpack, hrs, built, hinsert, hschema, hevents, htimes, hentries⟩ :=
    exists_packAll (q := { schema := p.schema, events := p.events, importTime := p.importTime })
      hleaf hreturns p.synopses.ascending
  have hbuilt : built = p.retyped := by
    obtain ⟨schema, synopses, events, importTime⟩ := built
    obtain rfl : schema = p.schema := hschema
    obtain rfl : events = p.events := hevents
    obtain rfl : importTime = p.importTime := htimes
    have hsynopses : synopses = p.retyped.synopses := OffsetMap.ext_entries hentries
    rw [hsynopses]
    rfl
  have hfits : ∀ r ∈ rs, r.field.offset.FitsWord := by
    intro r hr
    obtain ⟨u, hu⟩ := hrs r hr
    exact hword _ u hu
  refine ⟨⟨p.schema.toType, p.events, p.importTime, rs⟩, ?_, ?_⟩
  · simp only [Partition.toWire, hpack]
    rfl
  · have hread := readEncoded_text (e := ⟨p.schema.toType, p.events, p.importTime, rs⟩) hfits
    simp only [decode, hread]
    by_cases hdepth : (Encoded.toWire ⟨p.schema.toType, p.events, p.importTime, rs⟩).depth ≤
        Wire.maxDepth
    · rw [if_pos hdepth, if_pos hdepth]
      simp only [ofEncoded, Schema.ofType?_toType, hinsert, hbuilt]
    · rw [if_neg hdepth, if_neg hdepth]

theorem retyped_eq_self_iff (hcustom : ∀ o u, (o, u) ∈ p.synopses.entries → ∀ c, u ≠ .custom c) :
    p.retyped = p ↔ ∀ o u, (o, u) ∈ p.synopses.entries → u.type = typeAt p.schema o u.type := by
  constructor
  · intro h o u hu
    have hentries : p.retyped.synopses.entries = p.synopses.entries.map id := by
      rw [h, List.map_id]
    have hkept := List.map_inj_left.mp hentries (o, u) hu
    exact Synopsis.type_eq_of_retype_eq (congrArg Prod.snd hkept) (hcustom o u hu)
  · intro h
    have hsynopses : p.retyped.synopses = p.synopses := by
      refine OffsetMap.ext_entries ?_
      rw [← List.map_id p.synopses.entries]
      refine List.map_congr_left fun e he => ?_
      have htype := h e.1 e.2 he
      show (e.1, e.2.retype (typeAt p.schema e.1 e.2.type)) = e
      rw [← htype, Synopsis.retype_type]
    show ({ p with synopses := p.retyped.synopses } : Partition) = p
    rw [hsynopses]

/-- Every synopsis sits at a leaf, is of the type of the leaf and comes back from its record. -/
structure Portable (f : Factory) (p : Partition) : Prop where
  atLeaf : ∀ o u, (o, u) ∈ p.synopses.entries →
    ∃ leaf ∈ p.schema.leaves, leaf.offset = o ∧ u.type = leaf.type
  fitsWord : ∀ o u, (o, u) ∈ p.synopses.entries → o.FitsWord
  returns : ∀ o u, (o, u) ∈ p.synopses.entries → u.Returns f u.type

theorem encoding_keeps_summary (h : p.Portable f) :
    ∃ w, p.toWire = .ok w ∧ p.encode = .ok w.text ∧ decode f w.text =
      if w.depth ≤ 127 then .ok p else .error (.wire .malformed) := by
  have htype : ∀ o u, (o, u) ∈ p.synopses.entries → u.type = typeAt p.schema o u.type := by
    intro o u hu
    obtain ⟨leaf, hleaf, rfl, htype⟩ := h.atLeaf o u hu
    rw [typeAt_of_mem_leaves hleaf, htype]
  have hcustom : ∀ o u, (o, u) ∈ p.synopses.entries → ∀ c, u ≠ .custom c := by
    rintro o u hu c rfl
    exact h.returns o _ hu
  have hreturns : ∀ o u, (o, u) ∈ p.synopses.entries → u.Returns f (typeAt p.schema o u.type) := by
    intro o u hu
    rw [← htype o u hu]
    exact h.returns o u hu
  obtain ⟨e, hwire, hdecode⟩ := exists_encoded
    (fun o u hu => (h.atLeaf o u hu).imp fun leaf hleaf => ⟨hleaf.1, hleaf.2.1⟩) h.fitsWord hreturns
  rw [(retyped_eq_self_iff hcustom).mpr htype] at hdecode
  have hencode : p.encode = .ok e.toWire.text := by
    rw [encode, hwire]
    rfl
  exact ⟨e.toWire, hwire, hencode, hdecode⟩

def mailStamp : DataType :=
  .scalar .time { name := some "stamp", attributes := [⟨"unit", some "ns"⟩] }

def mailSchema : Schema where
  name := "mail ✉"
  fields := [("sent", mailStamp),
    ("flags", .record [("seen", .scalar .bool), ("\"to\"", .list (.scalar .string))])]
  attributes := [⟨"index", none⟩]

def mailPartition : Partition where
  schema := mailSchema
  synopses :=
    { entries :=
        [([0], .time { type := mailStamp }),
         ([1, 0], .bool { type := .scalar .bool, anyTrue := true }),
         ([1, 1], .sealed (.list (.scalar .string)) ⟨"bloom", 3, [0, 255]⟩)]
      ascending := by simp [Offset.before, Offset.compare]; decide }
  events := 18446744073709551615
  importTime := some (Int64.minValue, 0)

/-- A factory with a decoder for the payload, which refuses it. -/
def mailFactory : Factory :=
  (Factory.withSummaries true true).registerDecoder "bloom" fun _ p =>
    if p.version < 3 then .ok (.sealed (.scalar .string) p) else .error .noSynopsisType

theorem mail_encoding_keeps_summary : mailPartition.Portable mailFactory ∧
    ∃ text, mailPartition.encode = .ok text ∧ decode mailFactory text = .ok mailPartition := by
  have hportable : mailPartition.Portable mailFactory := by
    constructor <;> simp only [mailPartition, List.mem_cons, Prod.mk.injEq, List.not_mem_nil, or_false]
    · rintro o u (⟨rfl, rfl⟩ | ⟨rfl, rfl⟩ | ⟨rfl, rfl⟩)
      · exact ⟨_, .head _, rfl, rfl⟩
      · exact ⟨_, .tail _ (.head _), rfl, rfl⟩
      · exact ⟨_, .tail _ (.tail _ (.head _)), rfl, rfl⟩
    · rintro o u (⟨rfl, rfl⟩ | ⟨rfl, rfl⟩ | ⟨rfl, rfl⟩) <;> decide
    · rintro o u (⟨rfl, rfl⟩ | ⟨rfl, rfl⟩ | ⟨rfl, rfl⟩)
      · trivial
      · trivial
      · intro decode hdecode
        cases hdecode
        exact ⟨.noSynopsisType, rfl⟩
  obtain ⟨w, hwire, hencode, hdecode⟩ := encoding_keeps_summary hportable
  have hdepth : w.depth ≤ 127 := by
    have hnested : mailPartition.toWire.map Wire.depth = .ok 12 := by rfl
    rw [hwire] at hnested
    have hw : w.depth = 12 := Except.ok.inj hnested
    omega
  rw [if_pos hdepth] at hdecode
  exact ⟨hportable, w.text, hencode, hdecode⟩

end Partition

end EventFilter
