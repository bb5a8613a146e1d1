import EventFilter.Proofs.DataType.CanonicalText
import EventFilter.Proofs.Wire.Recovery

/-! The wire form of data types decodes to the type, attributes and optional names included. -/

namespace EventFilter

open Wire Wire.Members

theorem Attribute.recovers_toWire (a : Attribute) : Recovers Attribute.ofWire a.toWire a := by
  obtain ⟨key, value⟩ := a
  have hvalue : Recovers (asOption asString) ((value.map Wire.string).getD .null) value := by
    cases value with
    | none => exact recovers_none asString
    | some v => exact (recovers_string v).some (by simp)
  refine recovers_structure ?_ (by simp) (by simp) ?_ ?_
  · cases value <;> rfl
  · intro m hfound hsize
    exact ((late_required hfound hsize).map _).seq (late_nullable hfound hsize)
  · intro depth
    refine Placed.Gives.congr (.seq (.map (gives_required (recovers_string key) (by rfl) depth) _)
      (gives_nullable hvalue (by rfl) depth)) rfl ?_
    simp only [memberDepth, Nat.max_le, Nat.zero_le, and_true]

namespace DataType

/-- The members of a type decode to its label on what its kind decodes to. -/
theorem recovers_labelled {readKind : Wire → Except WireError DataType} {kind : Wire} {t : DataType}
    (h : Recovers readKind kind t) (hkind : kind.isPlain) (l : Label) :
    Recovers (asStructure ["kind", "name", "attributes"] fun m =>
      (fun t name attributes => t.setLabel { name, attributes }) <$> m.required "kind" readKind <*>
        m.defaulted "name" none (asOption asString) <*>
        m.defaulted "attributes" [] (asList Attribute.ofWire))
      (.object (("kind", kind) :: labelMembers l)) (t.setLabel l) := by
  have hattributes : Recovers (asList Attribute.ofWire)
      (.array (l.attributes.map Attribute.toWire)) l.attributes :=
    recovers_list (fun a _ => a.recovers_toWire) (asStructure_barrier _ _)
  refine recovers_structure ?_ ?_ ?_ ?_ fun depth => ?_
  · simp [plainMembers, hkind, plainMembers_label]
  · cases hn : l.name <;> by_cases ha : l.attributes.isEmpty <;> simp [labelMembers, hn, ha]
  · cases hn : l.name <;> by_cases ha : l.attributes.isEmpty <;> simp [labelMembers, hn, ha]
  · intro m hfound hsize
    exact (((late_required hfound hsize).map _).seq (late_defaulted none hfound)).seq
      (late_defaulted [] hfound)
  · obtain ⟨name, attributes⟩ := l
    cases attributes with
    | nil =>
      refine Placed.Gives.congr (.seq (.seq (.map (gives_required h (by rfl) depth) _)
        (gives_optional (fun n _ => (recovers_string n).some (by simp)) ?_ depth))
        (gives_default [] ?_ depth)) rfl ?_
      · cases name <;> rfl
      · cases name <;> rfl
      · cases name <;> simp [labelMembers, memberDepth_le_iff, Wire.depth]
    | cons a rest =>
      refine Placed.Gives.congr (.seq (.seq (.map (gives_required h (by rfl) depth) _)
        (gives_optional (fun n _ => (recovers_string n).some (by simp)) ?_ depth))
        (gives_defaulted hattributes [] ?_ depth)) rfl ?_
      · cases name <;> rfl
      · cases name <;> rfl
      · cases name <;> simp [labelMembers, memberDepth_le_iff, Wire.depth]

variable {readType : Wire → Except WireError DataType} {w : Wire} {t : DataType}

theorem nameless_barred (h : w.isPlain) (depth : Nat) : (w.barred depth).nameless = none := by
  cases w <;> cases depth <;> first | rfl | simp [isPlain] at h

theorem recovers_scalar_kind (readType : Wire → Except WireError DataType) (k : Scalar) :
    Recovers (kindOfWire readType) (.string k.wireName) (scalar k) := by
  refine recovers_of_eq_ok rfl ?_
  cases k <;> rfl

theorem kindOfWire_barrier (rest : List (String × Wire)) :
    kindOfWire readType (.object (("", .fault .barrier) :: rest)) = .error .malformed := rfl

theorem kindOfWire_list (h : w.nameless = none) :
    kindOfWire readType (.object [("List", w)]) = list <$> readType w := by
  simp only [kindOfWire, h]
  cases readType w <;> rfl

theorem kindOfWire_record (h : w.nameless = none) :
    kindOfWire readType (.object [("Record", w)]) =
      record <$> w.asList (fieldOfWire readType) := by
  simp only [kindOfWire, h]
  cases w.asList (fieldOfWire readType) <;> rfl

/-- A kind of one member decodes as what the member holds does. -/
theorem recovers_variant {α : Type} {read : Wire → Except WireError α} {variant : String} {a : α}
    (make : α → DataType) (h : Recovers read w a) (hw : w.isPlain)
    (hkind : ∀ w : Wire, w.nameless = none →
      kindOfWire readType (.object [(variant, w)]) = make <$> read w) :
    Recovers (kindOfWire readType) (.object [(variant, w)]) (make a) := by
  intro depth
  have hdepth : (Wire.object [(variant, w)]).depth = w.depth + 1 := by
    simp [Wire.depth, memberDepth]
  rw [hdepth]
  cases depth with
  | zero => rw [if_neg (by omega), barred, kindOfWire_barrier]
  | succ n =>
    have hread := h n
    rw [barred, barredMembers, barredMembers, hkind _ (nameless_barred hw n), hread]
    by_cases hfits : w.depth ≤ n
    · rw [if_pos hfits, if_pos (by omega)]
      rfl
    · rw [if_neg hfits, if_neg (by omega)]
      rfl

def fieldToWire (f : Field) : Wire := .object [("name", .string f.1), ("ty", f.2.toWire)]

theorem fieldsToWire_eq_map (fs : List Field) : fieldsToWire fs = fs.map fieldToWire := by
  induction fs with
  | nil => rfl
  | cons f rest ih => rw [fieldsToWire, ih, List.map_cons, fieldToWire]

theorem recovers_field {name : String} (h : Recovers readType t.toWire t) :
    Recovers (fieldOfWire readType) (fieldToWire (name, t)) (name, t) :=
  recovers_pair (by decide) (recovers_string name) h rfl t.isPlain_toWire

mutual

theorem recovers_decode : (t : DataType) → (levels : Nat) → t.toWire.depth < levels →
    Recovers (decode levels) t.toWire t
  | .scalar k l, 0, h => absurd h (by omega)
  | .scalar k l, levels + 1, _ => recovers_labelled (recovers_scalar_kind _ k) rfl l
  | .list t l, 0, h => absurd h (by omega)
  | .list t l, levels + 1, h => by
    have hlevels : t.toWire.depth < levels := by
      simp [toWire, Wire.depth, memberDepth] at h
      omega
    have hkind := recovers_variant list (recovers_decode t levels hlevels) t.isPlain_toWire
      fun _ hw => kindOfWire_list hw
    exact recovers_labelled hkind (by simp [isPlain, plainMembers, isPlain_toWire]) l
  | .record fs l, 0, h => absurd h (by omega)
  | .record fs l, levels + 1, h => by
    have hlevels : itemDepth (fieldsToWire fs) < levels := by
      simp [toWire, Wire.depth, memberDepth] at h
      omega
    have hfields := recovers_list (recovers_fields fs levels hlevels) (asStructure_barrier _ _)
    rw [← fieldsToWire_eq_map] at hfields
    have hkind := recovers_variant record hfields (plainItems_fieldsToWire fs)
      fun _ hw => kindOfWire_record hw
    exact recovers_labelled hkind
      (by simp [isPlain, plainMembers, plainItems_fieldsToWire]) l

theorem recovers_fields : (fs : List Field) → (levels : Nat) →
    itemDepth (fieldsToWire fs) < levels →
      ∀ f ∈ fs, Recovers (fieldOfWire (decode levels)) (fieldToWire f) f
  | [], _, _, f, hf => absurd hf (by simp)
  | (name, t) :: rest, levels, h, f, hf => by
    obtain ⟨hhead, hrest⟩ := Nat.max_lt.mp h
    rcases List.mem_cons.mp hf with rfl | hf
    · have hlevels : t.toWire.depth < levels := by
        simp [Wire.depth, memberDepth] at hhead
        omega
      exact recovers_field (recovers_decode t levels hlevels)
    · exact recovers_fields rest levels hrest f hf

end

theorem recovers_toWire (t : DataType) : Recovers ofWire t.toWire t := by
  intro depth
  have hread := recovers_decode t (t.toWire.depth + 1) (by omega) depth
  rw [ofWire, depth_barred]
  exact hread

end DataType

end EventFilter
