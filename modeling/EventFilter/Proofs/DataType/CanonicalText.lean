import EventFilter.DataType.Wire
import EventFilter.Proofs.Wire.RoundTrip

/-! The canonical text of a type determines it, in every part: what is sorted for the text are the
members of objects with distinct keys. -/

namespace EventFilter

namespace Wire

theorem plainMembers_insertMember {m : String × Wire} {ms : List (String × Wire)}
    (hm : m.2.isPlain) (hms : plainMembers ms) : plainMembers (insertMember m ms) := by
  induction ms with
  | nil => simp [insertMember, plainMembers, hm]
  | cons n rest ih =>
    obtain ⟨key, w⟩ := n
    simp only [plainMembers, Bool.and_eq_true] at hms
    unfold insertMember
    split
    · simp [plainMembers, hm, hms]
    · simp [plainMembers, hms.1, ih hms.2]

mutual

theorem isPlain_sorted : (w : Wire) → w.isPlain → w.sorted.isPlain
  | .null, h => h
  | .bool _, h => h
  | .integer _, h => h
  | .real _ _ _, h => h
  | .string _, h => h
  | .fault _, h => h
  | .array items, h => plainItems_sorted items h
  | .object members, h => plainMembers_sorted members h

theorem plainItems_sorted : (items : List Wire) → plainItems items →
    plainItems (sortedItems items)
  | [], h => h
  | w :: rest, h => by
    simp only [plainItems, Bool.and_eq_true] at h
    simp [sortedItems, plainItems, isPlain_sorted w h.1, plainItems_sorted rest h.2]

theorem plainMembers_sorted : (members : List (String × Wire)) → plainMembers members →
    plainMembers (sortedMembers members)
  | [], h => h
  | (key, w) :: rest, h => by
    simp only [plainMembers, Bool.and_eq_true] at h
    exact plainMembers_insertMember (isPlain_sorted w h.1) (plainMembers_sorted rest h.2)

end

theorem sortedItems_eq_map (items : List Wire) : sortedItems items = items.map sorted := by
  induction items with
  | nil => rfl
  | cons w rest ih => simp [sortedItems, ih]

theorem plainItems_iff {items : List Wire} : plainItems items ↔ ∀ w ∈ items, w.isPlain := by
  induction items with
  | nil => simp [plainItems]
  | cons w rest ih => simp [plainItems, ih]

end Wire

theorem Attribute.isPlain_toWire (a : Attribute) : a.toWire.isPlain := by
  obtain ⟨key, value⟩ := a
  cases value <;> rfl

namespace DataType

theorem plainMembers_label (l : Label) : Wire.plainMembers (labelMembers l) := by
  have hattributes : Wire.plainItems (l.attributes.map Attribute.toWire) := by
    refine Wire.plainItems_iff.mpr fun w hw => ?_
    obtain ⟨a, -, rfl⟩ := List.mem_map.mp hw
    exact a.isPlain_toWire
  unfold labelMembers
  cases l.name <;> by_cases h : l.attributes.isEmpty <;>
    simp [h, Wire.plainMembers, Wire.isPlain, hattributes]

mutual

theorem isPlain_toWire : (t : DataType) → t.toWire.isPlain
  | .scalar k l => by simp [toWire, Wire.isPlain, Wire.plainMembers, plainMembers_label]
  | .list t l => by
    simp [toWire, Wire.isPlain, Wire.plainMembers, plainMembers_label, isPlain_toWire t]
  | .record fs l => by
    simp [toWire, Wire.isPlain, Wire.plainMembers, plainMembers_label, plainItems_fieldsToWire fs]

theorem plainItems_fieldsToWire : (fs : List Field) → Wire.plainItems (fieldsToWire fs)
  | [] => rfl
  | (name, t) :: rest => by
    simp [fieldsToWire, Wire.plainItems, Wire.isPlain, Wire.plainMembers, isPlain_toWire t,
      plainItems_fieldsToWire rest]

end

/-- The sorted form of a type with a given sorted kind. -/
def sortedForm (kind : Wire) (l : Label) : Wire :=
  .object ((if l.attributes.isEmpty then []
    else [("attributes", .array (l.attributes.map fun a => a.toWire.sorted))]) ++
    ("kind", kind) :: (match l.name with
      | some name => [("name", .string name)]
      | none => []))

theorem sorted_labelled (kind : Wire) (l : Label) :
    (Wire.object (("kind", kind) :: labelMembers l)).sorted = sortedForm kind.sorted l := by
  have hkind : ¬ "kind" < "attributes" := by decide
  have hname : ¬ "name" < "attributes" := by decide
  have hless : "kind" < "name" := by decide
  cases hn : l.name <;> by_cases ha : l.attributes.isEmpty <;>
    simp [labelMembers, sortedForm, hn, ha, Wire.sorted, Wire.sortedMembers, Wire.insertMember,
      Wire.sortedItems_eq_map, Function.comp_def, hkind, hname, hless]

theorem sorted_attribute_injective (a b : Attribute) (h : a.toWire.sorted = b.toWire.sorted) :
    a = b := by
  obtain ⟨key, value⟩ := a
  obtain ⟨key', value'⟩ := b
  have hless : "key" < "value" := by decide
  cases value <;> cases value' <;>
    simp_all [Attribute.toWire, Wire.sorted, Wire.sortedMembers, Wire.insertMember]

theorem sortedForm_injective {k m : Wire} {l n : Label} (h : sortedForm k l = sortedForm m n) :
    k = m ∧ l = n := by
  obtain ⟨name, attributes⟩ := l
  obtain ⟨name', attributes'⟩ := n
  have hmap : (attributes.map fun a => a.toWire.sorted) = (attributes'.map fun a => a.toWire.sorted)
      → attributes = attributes' := (List.map_inj_right sorted_attribute_injective).mp
  cases attributes <;> cases attributes' <;> cases name <;> cases name' <;>
    simp_all [sortedForm]

/-- The sorted kind of a list or a record. -/
def sortedKind (variant : String) (payload : Wire) : Wire := .object [(variant, payload)]

theorem sorted_scalar (k : Scalar) (l : Label) :
    (scalar k l).toWire.sorted = sortedForm (.string k.wireName) l :=
  sorted_labelled _ l

theorem sorted_list (t : DataType) (l : Label) :
    (list t l).toWire.sorted = sortedForm (sortedKind "List" t.toWire.sorted) l :=
  sorted_labelled _ l

theorem sorted_record (fs : List Field) (l : Label) : (record fs l).toWire.sorted =
    sortedForm (sortedKind "Record" (.array (Wire.sortedItems (fieldsToWire fs)))) l :=
  sorted_labelled _ l

theorem wireName_injective {k m : Scalar} (h : k.wireName = m.wireName) : k = m := by
  cases k <;> cases m <;> first | rfl | exact absurd h (by decide)

theorem sorted_field (name : String) (t : DataType) :
    (Wire.object [("name", .string name), ("ty", t.toWire)]).sorted =
      .object [("name", .string name), ("ty", t.toWire.sorted)] := by
  have hless : "name" < "ty" := by decide
  simp [Wire.sorted, Wire.sortedMembers, Wire.insertMember, hless]

mutual

theorem sorted_toWire_injective : (t u : DataType) → t.toWire.sorted = u.toWire.sorted → t = u
  | .scalar k l, u, h => by
    cases u with
    | scalar m n =>
      obtain ⟨hkind, rfl⟩ := sortedForm_injective (by simpa only [sorted_scalar] using h)
      rw [wireName_injective (Wire.string.inj hkind)]
    | list u n =>
      have hkind := (sortedForm_injective (by simpa only [sorted_scalar, sorted_list] using h)).1
      cases hkind
    | record gs n =>
      have hkind := (sortedForm_injective (by simpa only [sorted_scalar, sorted_record] using h)).1
      cases hkind
  | .list t l, u, h => by
    cases u with
    | scalar m n =>
      have hkind := (sortedForm_injective (by simpa only [sorted_scalar, sorted_list] using h)).1
      cases hkind
    | list u n =>
      obtain ⟨hkind, rfl⟩ := sortedForm_injective (by simpa only [sorted_list] using h)
      rw [sorted_toWire_injective t u (by simpa [sortedKind] using hkind)]
    | record gs n =>
      have hkind := (sortedForm_injective (by simpa only [sorted_list, sorted_record] using h)).1
      simp [sortedKind] at hkind
  | .record fs l, u, h => by
    cases u with
    | scalar m n =>
      have hkind := (sortedForm_injective (by simpa only [sorted_scalar, sorted_record] using h)).1
      cases hkind
    | list u n =>
      have hkind := (sortedForm_injective (by simpa only [sorted_list, sorted_record] using h)).1
      simp [sortedKind] at hkind
    | record gs n =>
      obtain ⟨hkind, rfl⟩ := sortedForm_injective (by simpa only [sorted_record] using h)
      rw [sorted_fieldsToWire_injective fs gs (by simpa [sortedKind] using hkind)]

theorem sorted_fieldsToWire_injective : (fs gs : List Field) →
    Wire.sortedItems (fieldsToWire fs) = Wire.sortedItems (fieldsToWire gs) → fs = gs
  | [], [], _ => rfl
  | [], (_, _) :: _, h => by simp [fieldsToWire, Wire.sortedItems] at h
  | (_, _) :: _, [], h => by simp [fieldsToWire, Wire.sortedItems] at h
  | (name, t) :: fs, (name', u) :: gs, h => by
    simp only [fieldsToWire, Wire.sortedItems, sorted_field, List.cons.injEq, Wire.object.injEq,
      Prod.mk.injEq, Wire.string.injEq, true_and, and_true] at h
    obtain ⟨⟨rfl, ht⟩, hrest⟩ := h
    rw [sorted_toWire_injective t u ht, sorted_fieldsToWire_injective fs gs hrest]

end

theorem canonicalText_injective {t u : DataType} (h : t.canonicalText = u.canonicalText) :
    t = u := by
  have hsorted : t.toWire.sorted = u.toWire.sorted :=
    Wire.text_injective (Wire.isPlain_sorted _ t.isPlain_toWire)
      (Wire.isPlain_sorted _ u.isPlain_toWire) h
  exact sorted_toWire_injective t u hsorted

end DataType

end EventFilter
