import EventFilter.Filter.Basic
import EventFilter.Proofs.DataType.CanonicalText

/-! The identity of schemas. The canonical text leaves nothing of a type out, so that a fingerprint
stands for one schema as long as the digest tells the texts in question apart. Fields and kept
resolutions, which are found by the fingerprint, then belong to that schema alone. -/

namespace EventFilter

/-- Whether no two of the texts have the same digest. -/
def Digest.Separates (texts : List String) : Prop :=
  ∀ a ∈ texts, ∀ b ∈ texts, hexDigest a = hexDigest b → a = b

instance (texts : List String) : Decidable (Digest.Separates texts) :=
  inferInstanceAs (Decidable (∀ a ∈ texts, ∀ b ∈ texts, _ → _))

theorem DataType.canonicalText_eq_iff {t u : DataType} :
    t.canonicalText = u.canonicalText ↔ t = u := by
  constructor
  · exact canonicalText_injective
  · intro h
    rw [h]

namespace Schema

variable {s u : Schema}

theorem fingerprint_injective {texts : List String} (h : Digest.Separates texts)
    (hs : s.toType.canonicalText ∈ texts) (hu : u.toType.canonicalText ∈ texts)
    (heq : s.fingerprint = u.fingerprint) : s = u := by
  have htext : s.toType.canonicalText = u.toType.canonicalText := h _ hs _ hu heq
  exact toType_injective (DataType.canonicalText_injective htext)

theorem fingerprint_eq_iff
    (h : Digest.Separates [s.toType.canonicalText, u.toType.canonicalText]) :
    s.fingerprint = u.fingerprint ↔ s = u := by
  constructor
  · exact fingerprint_injective h (by simp) (by simp)
  · intro hsu
    rw [hsu]

end Schema

theorem QualifiedField.fingerprint_of_mem_all {s : Schema} {q : QualifiedField} (h : q ∈ all s) :
    q.fingerprint = s.fingerprint := by
  obtain ⟨leaf, -, rfl⟩ := List.mem_map.mp h
  rfl

/-- A new resolution is found by the fingerprint of its schema, and hides nothing else. -/
theorem Filter.lookup_resolution {f : Filter} {s : Schema} {r : Resolution}
    (hnew : f.resolved.lookup s.fingerprint = none) (hbind : f.bind s = .ok r) (key : String) :
    (f.resolution s).filter.resolved.lookup key =
      if key = s.fingerprint then some r else f.resolved.lookup key := by
  simp only [resolution, hnew, hbind, List.lookup_cons]
  by_cases hkey : key = s.fingerprint
  · simp [hkey]
  · have hne : (key == s.fingerprint) = false := by simpa using hkey
    simp [hkey, hne]

/-- The canonical text determines the type. Where the digest tells the texts of two schemas apart,
their fingerprints are equal only if the schemas are; the fields of one belong to the other, and a
resolution kept for one is found for the other, only if they are the same schema. -/
theorem fingerprint_identifies_schema :
    (∀ t u : DataType, t.canonicalText = u.canonicalText ↔ t = u) ∧
    ∀ s u : Schema, Digest.Separates [s.toType.canonicalText, u.toType.canonicalText] →
      (s.fingerprint = u.fingerprint ↔ s = u) ∧
      (∀ q ∈ QualifiedField.all u, q.belongsTo s ↔ s = u) ∧
      ∀ (f : Filter) (r : Resolution), f.resolved.lookup u.fingerprint = none →
        f.bind u = .ok r → (f.resolution u).filter.resolved.lookup s.fingerprint =
          if s = u then some r else f.resolved.lookup s.fingerprint := by
  refine ⟨fun t u => DataType.canonicalText_eq_iff, fun s u hsep => ?_⟩
  have hiff : s.fingerprint = u.fingerprint ↔ s = u := Schema.fingerprint_eq_iff hsep
  refine ⟨hiff, ?_, ?_⟩
  · intro q hq
    have hfingerprint : q.fingerprint = u.fingerprint := QualifiedField.fingerprint_of_mem_all hq
    rw [QualifiedField.belongsTo, beq_iff_eq, hfingerprint, ← hiff]
    exact eq_comm
  · intro f r hnew hbind
    rw [Filter.lookup_resolution hnew hbind]
    simp only [hiff]

/-- Sizes of files, in a unit that is left open or is the empty text. -/
def sizeSchema (unit : Option String) : Schema :=
  ⟨"files", [("größe", .scalar .uint64 { name := some "uint64", attributes := [⟨"unit", unit⟩] })], []⟩

theorem unit_left_open_is_no_empty_unit :
    Digest.Separates [(sizeSchema none).toType.canonicalText,
      (sizeSchema (some "")).toType.canonicalText] ∧
    (sizeSchema none).fingerprint ≠ (sizeSchema (some "")).fingerprint := by
  have hsep : Digest.Separates [(sizeSchema none).toType.canonicalText,
      (sizeSchema (some "")).toType.canonicalText] := by decide +kernel
  obtain ⟨hiff, -, -⟩ := fingerprint_identifies_schema.2 _ _ hsep
  have hne : sizeSchema none ≠ sizeSchema (some "") := by simp [sizeSchema]
  exact ⟨hsep, fun h => hne (hiff.mp h)⟩

end EventFilter
