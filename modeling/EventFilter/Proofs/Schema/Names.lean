import EventFilter.Proofs.Schema.Leaves
import EventFilter.Proofs.Text.Split

/-! Names of leaves. A name means the leaves whose path of names, with the parts of the schema's
name in front, ends in the parts of the name. -/

namespace EventFilter.Schema

/-- The parts of a text between its dots. -/
def components (text : String) : List String := (Text.splitOn '.' text.toList).map String.ofList

def isPlain (name : String) : Bool := name ≠ "" ∧ '.' ∉ name.toList

mutual

/-- Whether the fields on all paths have plain names. No path leads into the elements of a list. -/
def hasPlainNames : DataType → Bool
  | .record fs _ => havePlainNames fs
  | _ => true

def havePlainNames : List Field → Bool
  | [] => true
  | (name, t) :: fs => isPlain name && hasPlainNames t && havePlainNames fs

end

variable {name key : String} {names : List String}

theorem components_of_isPlain (h : isPlain name) : components name = [name] := by
  obtain ⟨-, hdot⟩ : name ≠ "" ∧ '.' ∉ name.toList := by simpa [isPlain] using h
  rw [components, Text.splitOn_of_not_mem hdot, List.map_singleton, String.ofList_toList]

theorem components_append_dot (front back : String) :
    components (front ++ "." ++ back) = components front ++ components back := by
  have hlist : (front ++ "." ++ back).toList = front.toList ++ '.' :: back.toList := by simp
  rw [components, hlist, Text.splitOn_append_cons, List.map_append]
  rfl

theorem isSuffix_iff : isSuffix key name ↔ components name <:+ components key := by
  have hinj : Function.Injective String.ofList := fun a b h => String.ofList_injective h
  rw [components, components, List.suffix_map_iff_of_injective hinj, Text.splitOn_suffix_iff,
    String.toList_inj, isSuffix, Bool.or_eq_true, beq_iff_eq, List.isSuffixOf_iff_suffix]

/-! ### Bytes -/

def bytes (text : String) : List UInt8 := text.toByteArray.data.toList

theorem bytes_append (front back : String) : bytes (front ++ back) = bytes front ++ bytes back := by
  simp [bytes, ByteArray.data_append]

theorem bytes_dot : bytes "." = [0x2E] := by decide

/-- What encodes a text at the end of another one begins with a character of the other one. -/
theorem toList_suffix_of_bytes_suffix {text tail : String} (h : bytes tail <:+ bytes text) :
    tail.toList <:+ text.toList := by
  obtain ⟨front, hfront⟩ := h
  have happend : text.toByteArray = front.toByteArray ++ tail.toByteArray := by
    apply ByteArray.ext
    apply Array.toList_inj.mp
    rw [ByteArray.data_append, Array.toList_append, List.data_toByteArray, ← bytes, ← bytes,
      hfront]
  have hstart : String.Pos.Raw.IsValid text ⟨front.toByteArray.size⟩ := by
    apply String.Pos.Raw.isValid_iff_isValidUTF8_extract_utf8ByteSize.mpr
    constructor
    · simp [String.Pos.Raw.le_iff, ← String.size_toByteArray, happend]
    · have hend : text.toByteArray.extract front.toByteArray.size text.utf8ByteSize =
          tail.toByteArray := by
        rw [← String.size_toByteArray, happend]
        exact ByteArray.extract_append_eq_right rfl (by simp)
      rw [hend]
      exact tail.isValidUTF8
  obtain ⟨before, rest, hbefore, rfl⟩ := hstart.exists
  have hrest : String.ofList rest = tail := by
    have hfirst : before.utf8Encode = front.toByteArray := by
      rw [hbefore, happend]
      exact ByteArray.extract_append_eq_left rfl
    rw [String.toByteArray_ofList, List.utf8Encode_append, hfirst,
      ByteArray.append_right_inj] at happend
    exact String.toByteArray_inj.mp (by rw [String.toByteArray_ofList, happend])
  rw [← hrest, String.toList_ofList, String.toList_ofList]
  exact List.suffix_append ..

/-- The same test on the encoded texts: the bytes of the key are more, they end in those of the
name, and a dot stands in front of these. -/
theorem isSuffix_iff_bytes : isSuffix key name ↔ key = name ∨
    (bytes name).length < (bytes key).length ∧ bytes name <:+ bytes key ∧
      (bytes key)[(bytes key).length - (bytes name).length - 1]? = some 0x2E := by
  rw [isSuffix, Bool.or_eq_true, beq_iff_eq, List.isSuffixOf_iff_suffix]
  refine or_congr_right ⟨?_, ?_⟩
  · rintro ⟨front, hfront⟩
    have hkey : key = String.ofList front ++ "." ++ name := by
      apply String.toList_inj.mp
      simpa using hfront.symm
    have hbytes : bytes key = bytes (String.ofList front) ++ 0x2E :: bytes name := by
      rw [hkey, bytes_append, bytes_append, bytes_dot]
      simp
    have hlength : (bytes key).length =
        (bytes (String.ofList front)).length + (bytes name).length + 1 := by
      rw [hbytes, List.length_append, List.length_cons]
      omega
    have hindex : (bytes key).length - (bytes name).length - 1 =
        (bytes (String.ofList front)).length := by omega
    refine ⟨by omega, ⟨bytes (String.ofList front) ++ [0x2E], by simp [hbytes]⟩, ?_⟩
    rw [hindex, hbytes]
    simp
  · rintro ⟨hlt, ⟨front, hfront⟩, hdot⟩
    obtain rfl | ⟨front, byte, rfl⟩ := List.eq_nil_or_concat front
    · simp [← hfront] at hlt
    · have hindex : (bytes key).length - (bytes name).length - 1 = front.length := by
        simp [← hfront]
        omega
      have hbyte : byte = 0x2E := by
        rw [hindex, ← hfront] at hdot
        simpa using hdot
      have hdotted : bytes ("." ++ name) <:+ bytes key := by
        rw [bytes_append, bytes_dot, ← hfront, hbyte]
        exact ⟨front, by simp⟩
      simpa using toList_suffix_of_bytes_suffix hdotted

/-! ### Names along paths -/

theorem components_foldl_joinKey (hkey : key ≠ "") (hnames : ∀ name ∈ names, isPlain name) :
    components (names.foldl joinKey key) = components key ++ names := by
  induction names generalizing key with
  | nil => simp
  | cons name rest ih =>
    obtain ⟨hname, hrest⟩ := List.forall_mem_cons.mp hnames
    have hjoin : joinKey key name = key ++ "." ++ name := by simp [joinKey, hkey]
    have hne : key ++ "." ++ name ≠ "" := by simp
    rw [List.foldl_cons, hjoin, ih hne hrest, components_append_dot, components_of_isPlain hname]
    simp

/-- The key of a leaf consists of the names along its path. -/
theorem components_key (hne : names ≠ []) (hnames : ∀ name ∈ names, isPlain name) :
    components (names.foldl joinKey "") = names := by
  cases names with
  | nil => exact absurd rfl hne
  | cons name rest =>
    obtain ⟨hname, hrest⟩ := List.forall_mem_cons.mp hnames
    have hnotempty : name ≠ "" := by
      rintro rfl
      simp [isPlain] at hname
    have hjoin : joinKey "" name = name := by simp [joinKey]
    rw [List.foldl_cons, hjoin, components_foldl_joinKey hnotempty hrest,
      components_of_isPlain hname]
    rfl

theorem isPlain_of_havePlainNames {fs : List Field} (h : havePlainNames fs) {i : Nat}
    {t : DataType} (hfield : fs[i]? = some (name, t)) : isPlain name ∧ hasPlainNames t := by
  induction fs generalizing i with
  | nil => simp at hfield
  | cons f fs ih =>
    obtain ⟨n, u⟩ := f
    simp only [havePlainNames, Bool.and_eq_true] at h
    cases i with
    | zero =>
      obtain ⟨rfl, rfl⟩ : n = name ∧ u = t := by simpa using hfield
      exact h.1
    | succ i => exact ih h.2 (by simpa using hfield)

theorem isPlain_of_descend? {t u : DataType} {path : Offset} (h : hasPlainNames t)
    (hpath : t.descend? path = some (names, u)) : ∀ name ∈ names, isPlain name := by
  induction path generalizing t names with
  | nil =>
    obtain ⟨rfl, -⟩ : [] = names ∧ t = u := by simpa using hpath
    simp
  | cons i path ih =>
    cases t with
    | scalar => simp [DataType.descend?] at hpath
    | list => simp [DataType.descend?] at hpath
    | record fs a =>
      obtain ⟨name, rest, v, hfield, hrest, rfl⟩ := DataType.descend?_cons_eq_some_iff.mp hpath
      have hinner := isPlain_of_havePlainNames (by simpa [hasPlainNames] using h) hfield
      intro n hn
      rcases List.mem_cons.mp hn with rfl | hn
      · exact hinner.1
      · exact ih hinner.2 hrest n hn

theorem mem_namedLeaves_iff {s : Schema} {leaf : Leaf} :
    leaf ∈ s.namedLeaves name ↔ name ≠ "" ∧ leaf ∈ s.leaves ∧
      components name <:+ components s.name ++ components leaf.key := by
  by_cases hname : name = ""
  · simp [namedLeaves, hname]
  · have hsuffix : (isSuffix leaf.key name || isSuffix (s.name ++ "." ++ leaf.key) name) = true ↔
        components name <:+ components s.name ++ components leaf.key := by
      rw [Bool.or_eq_true, isSuffix_iff, isSuffix_iff, components_append_dot]
      constructor
      · rintro (h | h)
        · exact h.trans (List.suffix_append ..)
        · exact h
      · exact .inr
    simp [namedLeaves, hname, hsuffix]

/-- A leaf is not at the root, so that its path has a name. -/
theorem names_ne_nil_of_descend? {s : Schema} {o : Offset} {t : DataType}
    (hpath : s.toType.descend? o = some (names, t)) (ht : t.isRecord = false) : names ≠ [] := by
  cases o with
  | nil =>
    obtain ⟨-, rfl⟩ : [] = names ∧ s.toType = t := by simpa using hpath
    simp [toType, DataType.isRecord, DataType.fields?] at ht
  | cons i path =>
    obtain ⟨first, rest, -, -, -, rfl⟩ := DataType.descend?_cons_eq_some_iff.mp hpath
    simp

theorem mem_namedLeaves_iff_of_plain {s : Schema} (h : hasPlainNames s.toType) {o : Offset}
    {t : DataType} : (o, t) ∈ (s.namedLeaves name).map (fun leaf => (leaf.offset, leaf.type)) ↔
      name ≠ "" ∧ t.isRecord = false ∧ ∃ names, s.toType.descend? o = some (names, t) ∧
        components name <:+ components s.name ++ names := by
  simp only [List.mem_map, mem_namedLeaves_iff, mem_leaves_iff, Prod.mk.injEq]
  constructor
  · rintro ⟨leaf, ⟨hname, ⟨names, hpath, hkey, ht⟩, hsuffix⟩, rfl, rfl⟩
    have hparts := components_key (names_ne_nil_of_descend? hpath ht) (isPlain_of_descend? h hpath)
    rw [hkey, hparts] at hsuffix
    exact ⟨hname, ht, names, hpath, hsuffix⟩
  · rintro ⟨hname, ht, names, hpath, hsuffix⟩
    have hparts := components_key (names_ne_nil_of_descend? hpath ht) (isPlain_of_descend? h hpath)
    rw [← hparts] at hsuffix
    exact ⟨⟨o, names.foldl joinKey "", t⟩, ⟨hname, ⟨names, hpath, rfl, ht⟩, hsuffix⟩, rfl, rfl⟩

theorem pairwise_namedLeaves (s : Schema) (name : String) :
    (s.namedLeaves name).Pairwise fun a b => a.offset.before b.offset := by
  by_cases hname : name = ""
  · simp [namedLeaves, hname]
  · have hsub : (s.namedLeaves name).Sublist s.leaves := by
      simp [namedLeaves, hname, List.filter_sublist]
    exact (pairwise_leaves s).sublist hsub

/-- Where no field name is empty or dotted, a name means exactly the leaves whose path of names,
behind the parts of the schema's name, ends in its parts. They come once each, in the order of their
offsets, with the types that the fields there have. -/
theorem name_resolution_is_exact {s : Schema} (h : hasPlainNames s.toType) (name : String) :
    (∀ o t, (o, t) ∈ (s.namedLeaves name).map (fun leaf => (leaf.offset, leaf.type)) ↔
      name ≠ "" ∧ t.isRecord = false ∧ ∃ names, s.toType.descend? o = some (names, t) ∧
        components name <:+ components s.name ++ names) ∧
    ((s.namedLeaves name).map (·.offset)).Pairwise (fun a b => a.before b) ∧
    ((s.namedLeaves name).map (·.offset)).Nodup ∧
    ∀ leaf ∈ s.namedLeaves name, ∃ last, s.field? leaf.offset = some (last, leaf.type) := by
  have hascending : ((s.namedLeaves name).map (·.offset)).Pairwise (fun a b => a.before b) :=
    List.pairwise_map.mpr (pairwise_namedLeaves s name)
  refine ⟨fun o t => mem_namedLeaves_iff_of_plain h, hascending, ?_, ?_⟩
  · apply hascending.imp
    rintro a b hab rfl
    exact Offset.not_before_self a hab
  · intro leaf hleaf
    exact field?_of_mem_leaves (mem_namedLeaves_iff.mp hleaf).2.1

/-- The schema of a table of connections with a dotted name. -/
def connections : Schema where
  name := "zeek.conn"
  fields := [("id", .record [("größe", .scalar .int64), ("host", .scalar .string)]),
    ("größe", .scalar .double)]

theorem part_of_schema_name_selects : hasPlainNames connections.toType ∧
    ([0, 0], .scalar .int64) ∈
      (connections.namedLeaves "conn.id.größe").map (fun leaf => (leaf.offset, leaf.type)) ∧
    ([1], .scalar .double) ∉
      (connections.namedLeaves "id.größe").map (fun leaf => (leaf.offset, leaf.type)) := by
  have hplain : hasPlainNames connections.toType := by decide
  refine ⟨hplain, ?_, ?_⟩
  · rw [(name_resolution_is_exact hplain _).1]
    exact ⟨by decide, rfl, ["id", "größe"], rfl, by decide⟩
  · rw [(name_resolution_is_exact hplain _).1]
    rintro ⟨-, -, names, hpath, hsuffix⟩
    obtain rfl : ["größe"] = names := by cases hpath; rfl
    revert hsuffix
    decide

end EventFilter.Schema
