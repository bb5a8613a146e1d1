import EventFilter.Wire.Reader

/-! Reading what was written. The text of a value without faults and broken numbers reads back as
the value, whatever follows it, with a barrier in every container that lies too deep. -/

namespace EventFilter.Wire

/-! ### Strings -/

theorem hexDigit?_digitChar {n : Nat} (h : n < 16) : Text.hexDigit? n.digitChar = some n := by
  have hall : ∀ n, n < 16 → Text.hexDigit? n.digitChar = some n := by decide
  exact hall n h

theorem readUnits_plain {c : Char} (hquote : c ≠ '"') (hslash : c ≠ '\\') (hc : ¬ c.toNat < 32)
    (r : List Char) : readUnits (c :: r) = readUnits.push c.toNat (readUnits r) := by
  rw [readUnits, if_neg hc]
  · exact hquote
  · exact fun h => absurd h hslash
  · exact fun _ _ _ _ _ h => absurd h hslash
  · exact fun _ h => absurd h hslash
  · exact fun _ _ h => absurd h hslash

theorem readUnits_escapeChar (c : Char) (r : List Char) :
    readUnits (escapeChar c ++ r) = readUnits.push c.toNat (readUnits r) := by
  unfold escapeChar
  split
  · rfl
  · rfl
  · rfl
  · rfl
  · rfl
  · rfl
  · rfl
  · split
    · rename_i hc
      have hhigh := hexDigit?_digitChar (show c.toNat / 16 < 16 by omega)
      have hlow := hexDigit?_digitChar (show c.toNat % 16 < 16 by omega)
      have hzero : Text.hexDigit? '0' = some 0 := by decide
      have hunit : hexUnit? '0' '0' (Nat.digitChar (c.toNat / 16)) (Nat.digitChar (c.toNat % 16)) =
          some c.toNat := by
        simp only [hexUnit?, List.mapM_cons, List.mapM_nil, hhigh, hlow, hzero, pure, bind,
          Option.bind_some, List.foldl_cons, List.foldl_nil, Option.some.injEq]
        omega
      simp only [List.cons_append, List.nil_append]
      rw [readUnits, hunit]
    · rename_i hquote hslash _ _ _ _ _ hc
      exact readUnits_plain hquote hslash hc r

theorem readUnits_escaped (cs r : List Char) :
    readUnits (cs.flatMap escapeChar ++ '"' :: r) = (cs.map Char.toNat, .ok r) := by
  induction cs with
  | nil => simp [readUnits]
  | cons c cs ih =>
    rw [List.flatMap_cons, List.append_assoc, readUnits_escapeChar, ih]
    rfl

theorem pairUnits?_toNat (cs : List Char) : pairUnits? (cs.map Char.toNat) = some cs := by
  induction cs with
  | nil => rfl
  | cons c cs ih =>
    have hvalid : c.toNat < 0xd800 ∨ 0xdfff < c.toNat ∧ c.toNat < 0x110000 := c.valid
    have htrailing : isTrailing c.toNat = false := by
      simp only [isTrailing, Bool.and_eq_false_iff, decide_eq_false_iff_not]
      omega
    have hleading : isLeading c.toNat = false := by
      simp only [isLeading, Bool.and_eq_false_iff, decide_eq_false_iff_not]
      omega
    rw [List.map_cons, pairUnits?.eq_def]
    simp [htrailing, hleading, ih]

theorem readString_escaped (s : String) (r : List Char) :
    readString (s.toList.flatMap escapeChar ++ '"' :: r) = (.ok s, some r) := by
  simp [readString, readUnits_escaped, pairUnits?_toNat]

/-! ### Numbers -/

/-- What a number may be followed by without becoming another one. -/
def EndsNumber (r : List Char) : Prop :=
  ∀ c rest, r = c :: rest → c.isDigit = false ∧ c ≠ '.' ∧ c ≠ 'e' ∧ c ≠ 'E'

theorem takeWhile_digits {ds r : List Char} (hd : ∀ c ∈ ds, c.isDigit) (hr : EndsNumber r) :
    (ds ++ r).takeWhile Char.isDigit = ds ∧ (ds ++ r).dropWhile Char.isDigit = r := by
  induction ds with
  | nil =>
    cases r with
    | nil => simp
    | cons c rest => simp [(hr c rest rfl).1]
  | cons d ds ih =>
    have hd' := ih fun c hc => hd c (List.mem_cons_of_mem _ hc)
    simp [hd d (by simp), hd'.1, hd'.2]

theorem readDigits_natural (n : Nat) {r : List Char} (hr : EndsNumber r) :
    readDigits (naturalChars n ++ r) = .ok (naturalChars n, r) := by
  have hdigits : ∀ c ∈ naturalChars n, c.isDigit := fun c hc =>
    Nat.isDigit_of_mem_toDigits (by decide) (by decide) hc
  obtain ⟨htake, hdrop⟩ := takeWhile_digits hdigits hr
  have hne : naturalChars n ≠ [] := Nat.toDigits_ne_nil
  unfold readDigits
  rw [htake, hdrop]
  split
  · contradiction
  · rfl

/-- Only the number zero begins with the digit. -/
theorem natural_of_head_zero {n : Nat} {ds : List Char} (h : naturalChars n = '0' :: ds) :
    n = 0 := by
  induction n using Nat.strongRecOn generalizing ds with
  | ind n ih =>
    by_cases hn : n < 10
    · rw [naturalChars, Nat.toDigits_of_lt_base hn] at h
      have hchar : n.digitChar = '0' := (List.cons.inj h).1
      exact Nat.digitChar_eq_zero.mp hchar
    · rw [naturalChars, Nat.toDigits_of_base_le (by decide) (by omega)] at h
      cases hhead : Nat.toDigits 10 (n / 10) with
      | nil => exact absurd hhead Nat.toDigits_ne_nil
      | cons d rest =>
        rw [hhead, List.cons_append] at h
        obtain rfl : d = '0' := (List.cons.inj h).1
        have hzero := ih (n / 10) (by omega) hhead
        omega

theorem readWhole_natural (n : Nat) {r : List Char} (hr : EndsNumber r) :
    readWhole (naturalChars n ++ r) = .ok (naturalChars n, r) := by
  by_cases hn : n = 0
  · subst hn
    cases r with
    | nil => rfl
    | cons c rest =>
      have hc : c.isDigit = false := (hr c rest rfl).1
      simp [naturalChars, readWhole, hc]
  · unfold readWhole
    split
    · rename_i d rest heq
      cases hhead : naturalChars n with
      | nil => exact absurd hhead Nat.toDigits_ne_nil
      | cons c ds =>
        rw [hhead] at heq
        obtain rfl : c = '0' := (List.cons.inj heq).1
        exact absurd (natural_of_head_zero hhead) hn
    · exact readDigits_natural n hr

theorem digitsValue_natural (n : Nat) : digitsValue (naturalChars n) = n :=
  Nat.ofDigitChars_ten_toDigits

theorem readFraction_of_endsNumber {r : List Char} (hr : EndsNumber r) :
    readFraction r = .ok ([], r) := by
  unfold readFraction
  split
  · exact absurd rfl (hr _ _ rfl).2.1
  · rfl

theorem readExponent_of_endsNumber {r : List Char} (hr : EndsNumber r) :
    readExponent r = .ok (none, r) := by
  cases r with
  | nil => rfl
  | cons c rest =>
    obtain ⟨-, -, he, hE⟩ := hr c rest rfl
    simp [readExponent, he, hE]

theorem readNumber_natural (negative : Bool) (n : Nat) (hn : negative → n ≠ 0) {r : List Char}
    (hr : EndsNumber r) : readNumber negative (naturalChars n ++ r) =
      .ok (.integer (if negative then -n else n), r) := by
  have hsign : (negative && n == 0) = false := by
    cases negative with
    | false => rfl
    | true => simpa using hn rfl
  simp [readNumber, readWhole_natural n hr, readFraction_of_endsNumber hr,
    readExponent_of_endsNumber hr, digitsValue_natural, hsign]

/-! ### Values -/

mutual

/-- No faults, and no numbers but integers. -/
def isPlain : Wire → Bool
  | real _ _ _ => false
  | fault _ => false
  | array items => plainItems items
  | object members => plainMembers members
  | _ => true

def plainItems : List Wire → Bool
  | [] => true
  | w :: rest => w.isPlain && plainItems rest

def plainMembers : List (String × Wire) → Bool
  | [] => true
  | (_, w) :: rest => w.isPlain && plainMembers rest

end

mutual

/-- The value as it is read within `depth` containers. -/
def barred : Nat → Wire → Wire
  | 0, array items => array (.fault .barrier :: barredItems 0 items)
  | depth + 1, array items => array (barredItems depth items)
  | 0, object members => object (("", .fault .barrier) :: barredMembers 0 members)
  | depth + 1, object members => object (barredMembers depth members)
  | _, w => w

def barredItems : Nat → List Wire → List Wire
  | _, [] => []
  | depth, w :: rest => barred depth w :: barredItems depth rest

def barredMembers : Nat → List (String × Wire) → List (String × Wire)
  | _, [] => []
  | depth, (key, w) :: rest => (key, barred depth w) :: barredMembers depth rest

end

theorem barred_array (depth : Nat) (items : List Wire) : barred depth (array items) =
    array (if depth = 0 then .fault .barrier :: barredItems (depth - 1) items
      else barredItems (depth - 1) items) := by
  cases depth <;> rfl

theorem barred_object (depth : Nat) (members : List (String × Wire)) :
    barred depth (object members) =
      object (if depth = 0 then ("", .fault .barrier) :: barredMembers (depth - 1) members
        else barredMembers (depth - 1) members) := by
  cases depth <;> rfl

mutual

theorem depth_barred : (depth : Nat) → (w : Wire) → (w.barred depth).depth = w.depth
  | 0, .array items => by simp [barred, Wire.depth, itemDepth, itemDepth_barredItems 0 items]
  | n + 1, .array items => by simp [barred, Wire.depth, itemDepth_barredItems n items]
  | 0, .object members => by
    simp [barred, Wire.depth, memberDepth, memberDepth_barredMembers 0 members]
  | n + 1, .object members => by simp [barred, Wire.depth, memberDepth_barredMembers n members]
  | 0, .null | 0, .bool _ | 0, .integer _ | 0, .real _ _ _ | 0, .string _ | 0, .fault _ => rfl
  | _ + 1, .null | _ + 1, .bool _ | _ + 1, .integer _ | _ + 1, .real _ _ _ | _ + 1, .string _
  | _ + 1, .fault _ => rfl

theorem itemDepth_barredItems : (depth : Nat) → (items : List Wire) →
    itemDepth (barredItems depth items) = itemDepth items
  | _, [] => rfl
  | depth, w :: rest => by
    simp [barredItems, itemDepth, depth_barred depth w, itemDepth_barredItems depth rest]

theorem memberDepth_barredMembers : (depth : Nat) → (members : List (String × Wire)) →
    memberDepth (barredMembers depth members) = memberDepth members
  | _, [] => rfl
  | depth, (key, w) :: rest => by
    simp [barredMembers, memberDepth, depth_barred depth w, memberDepth_barredMembers depth rest]

end

mutual

theorem barred_eq_self : (depth : Nat) → (w : Wire) → w.depth ≤ depth → w.barred depth = w
  | 0, .array items, h => by simp [Wire.depth] at h
  | n + 1, .array items, h => by
    simp [barred, barredItems_eq_self n items (by simpa [Wire.depth] using h)]
  | 0, .object members, h => by simp [Wire.depth] at h
  | n + 1, .object members, h => by
    simp [barred, barredMembers_eq_self n members (by simpa [Wire.depth] using h)]
  | 0, .null, _ | 0, .bool _, _ | 0, .integer _, _ | 0, .real _ _ _, _ | 0, .string _, _
  | 0, .fault _, _ => rfl
  | _ + 1, .null, _ | _ + 1, .bool _, _ | _ + 1, .integer _, _ | _ + 1, .real _ _ _, _
  | _ + 1, .string _, _ | _ + 1, .fault _, _ => rfl

theorem barredItems_eq_self : (depth : Nat) → (items : List Wire) → itemDepth items ≤ depth →
    barredItems depth items = items
  | _, [], _ => rfl
  | depth, w :: rest, h => by
    obtain ⟨hw, hrest⟩ := Nat.max_le.mp h
    rw [barredItems, barred_eq_self depth w hw, barredItems_eq_self depth rest hrest]

theorem barredMembers_eq_self : (depth : Nat) → (members : List (String × Wire)) →
    memberDepth members ≤ depth → barredMembers depth members = members
  | _, [], _ => rfl
  | depth, (key, w) :: rest, h => by
    obtain ⟨hw, hrest⟩ := Nat.max_le.mp h
    rw [barredMembers, barred_eq_self depth w hw, barredMembers_eq_self depth rest hrest]

end

theorem skipBlanks_cons {c : Char} (h : isBlank c = false) (cs : List Char) :
    skipBlanks (c :: cs) = c :: cs := by
  simp [skipBlanks, h]

theorem isBlank_of_isDigit {c : Char} (h : c.isDigit) : isBlank c = false := by
  cases hc : isBlank c with
  | false => rfl
  | true =>
    simp only [isBlank, Bool.or_eq_true, beq_iff_eq] at hc
    rcases hc with ((rfl | rfl) | rfl) | rfl <;> exact absurd h (by decide)

theorem exists_cons_natural (n : Nat) : ∃ c cs, naturalChars n = c :: cs ∧ c.isDigit := by
  cases hhead : naturalChars n with
  | nil => exact absurd hhead Nat.toDigits_ne_nil
  | cons c cs =>
    have hc : c ∈ Nat.toDigits 10 n := by rw [← naturalChars, hhead]; exact List.mem_cons_self
    exact ⟨c, cs, rfl, Nat.isDigit_of_mem_toDigits (by decide) (by decide) hc⟩

theorem readValue_digit {c : Char} (h : c.isDigit) (fuel depth : Nat) (cs : List Char) :
    readValue (fuel + 1) depth (c :: cs) = scanNumber false (c :: cs) := by
  rw [readValue, skipBlanks_cons (isBlank_of_isDigit h)]
  -- No value but a number begins with a digit.
  split <;> rename_i heq <;> cases heq <;>
    first | exact absurd h (by decide) | simp [h]

theorem readValue_integer (n : Int) (fuel depth : Nat) {r : List Char} (hr : EndsNumber r) :
    readValue (fuel + 1) depth (integerChars n ++ r) = (.integer n, some r) := by
  by_cases hn : n < 0
  · have habs : n.natAbs ≠ 0 := by omega
    have hread := readNumber_natural true n.natAbs (fun _ => habs) hr
    have hint : -(n.natAbs : Int) = n := by omega
    simp only [integerChars, hn, if_true, List.cons_append]
    rw [readValue, skipBlanks_cons (by decide)]
    simp only [scanNumber, hread, if_true, hint]
  · have hread := readNumber_natural false n.natAbs (by simp) hr
    have hint : (n.natAbs : Int) = n := by omega
    simp only [integerChars, hn, if_false]
    obtain ⟨c, cs, hhead, hc⟩ := exists_cons_natural n.natAbs
    rw [hhead, List.cons_append, readValue_digit hc, ← List.cons_append, ← hhead]
    simp only [scanNumber, hread, Bool.false_eq_true, if_false, hint]

theorem endsNumber_of_cons {c : Char} (hc : c = ',' ∨ c = ']' ∨ c = '\x7d') (r : List Char) :
    EndsNumber (c :: r) := by
  intro d rest h
  obtain rfl : c = d := (List.cons.inj h).1
  rcases hc with rfl | rfl | rfl <;> decide

/-- A value begins neither with a blank nor with the end of an array. -/
theorem exists_cons_chars {w : Wire} (hw : w.isPlain) :
    ∃ c cs, w.chars = c :: cs ∧ isBlank c = false ∧ c ≠ ']' := by
  cases w with
  | null => exact ⟨'n', _, rfl, by decide, by decide⟩
  | bool b => cases b <;> exact ⟨_, _, rfl, by decide, by decide⟩
  | integer n =>
    by_cases hn : n < 0
    · exact ⟨'-', naturalChars n.natAbs, by simp [chars, integerChars, hn], by decide, by decide⟩
    · obtain ⟨c, cs, hhead, hc⟩ := exists_cons_natural n.natAbs
      refine ⟨c, cs, by simp [chars, integerChars, hn, hhead], isBlank_of_isDigit hc, ?_⟩
      rintro rfl
      exact absurd hc (by decide)
  | string s => exact ⟨'"', _, rfl, by decide, by decide⟩
  | array items => exact ⟨'[', _, rfl, by decide, by decide⟩
  | object members => exact ⟨'\x7b', _, rfl, by decide, by decide⟩
  | real => simp [isPlain] at hw
  | fault => simp [isPlain] at hw

theorem length_chars_pos {w : Wire} (hw : w.isPlain) : 0 < w.chars.length := by
  obtain ⟨c, cs, h, -⟩ := exists_cons_chars hw
  simp [h]

theorem exists_cons_itemChars {items : List Wire} (hne : items ≠ []) (hitems : plainItems items) :
    ∃ c cs, itemChars items = c :: cs ∧ isBlank c = false ∧ c ≠ ']' := by
  match items with
  | [] => exact absurd rfl hne
  | [w] =>
    exact exists_cons_chars (by simpa [plainItems] using hitems)
  | w :: x :: rest =>
    simp only [plainItems, Bool.and_eq_true] at hitems
    obtain ⟨c, cs, h, hc⟩ := exists_cons_chars hitems.1
    exact ⟨c, cs ++ ',' :: itemChars (x :: rest), by simp [itemChars, h], hc⟩

theorem readValue_string (s : String) (fuel depth : Nat) (r : List Char) :
    readValue (fuel + 1) depth (stringChars s ++ r) = (.string s, some r) := by
  have hread := readString_escaped s r
  simp only [stringChars, List.cons_append, List.append_assoc, List.nil_append]
  rw [readValue, skipBlanks_cons (by decide)]
  simp [hread]

theorem readMembers_key (key : String) (fuel depth : Nat) (lack : WireError → WireError → Fault)
    (r : List Char) : readMembers (fuel + 1) depth lack (stringChars key ++ r) =
      readMember fuel depth key r := by
  have hread := readString_escaped key r
  simp only [stringChars, List.cons_append, List.append_assoc, List.nil_append]
  rw [readMembers, skipBlanks_cons (by decide)]
  simp [hread]

theorem two_le_length_stringChars (s : String) : 2 ≤ (stringChars s).length := by
  simp [stringChars]

mutual

theorem readValue_chars : (w : Wire) → (fuel depth : Nat) → (r : List Char) → w.isPlain →
    EndsNumber r → 2 * w.chars.length ≤ fuel + 1 →
    readValue (fuel + 1) depth (w.chars ++ r) = (w.barred depth, some r)
  | .null, fuel, depth, r, _, _, _ => by
    cases depth <;> simp [chars, readValue, skipBlanks, isBlank, scanWord, readWord, barred]
  | .bool true, fuel, depth, r, _, _, _ => by
    cases depth <;> simp [chars, readValue, skipBlanks, isBlank, scanWord, readWord, barred]
  | .bool false, fuel, depth, r, _, _, _ => by
    cases depth <;> simp [chars, readValue, skipBlanks, isBlank, scanWord, readWord, barred]
  | .integer n, fuel, depth, r, _, hr, _ => by
    have hread := readValue_integer n fuel depth hr
    cases depth <;> exact hread
  | .string s, fuel, depth, r, _, _, _ => by
    have hread := readValue_string s fuel depth r
    cases depth <;> exact hread
  | .array [], fuel, depth, r, _, _, _ => by
    rw [barred_array]
    simp [chars, itemChars, readValue, skipBlanks, isBlank, barredItems]
  | .array (w :: rest), fuel, depth, r, hw, _, hfuel => by
    have hitems : plainItems (w :: rest) := hw
    obtain ⟨c, cs, hhead, hblank, hclose⟩ := exists_cons_itemChars (by simp) hitems
    simp only [chars, List.length_cons, List.length_append] at hfuel
    obtain ⟨f, rfl⟩ : ∃ f, fuel = f + 1 := ⟨fuel - 1, by omega⟩
    have hread := readItems_chars (w :: rest) f (depth - 1) r (by simp) hitems (by omega)
    rw [hhead, List.cons_append] at hread
    rw [barred_array]
    simp only [chars, List.cons_append, List.append_assoc, List.nil_append]
    rw [readValue, skipBlanks_cons (by decide), hhead]
    simp [skipBlanks_cons hblank, hread, hclose]
  | .object [], fuel, depth, r, _, _, _ => by
    rw [barred_object]
    simp [chars, memberChars, readValue, skipBlanks, isBlank, barredMembers]
  | .object ((key, w) :: rest), fuel, depth, r, hw, _, hfuel => by
    have hmembers : plainMembers ((key, w) :: rest) := hw
    obtain ⟨cs, hhead⟩ : ∃ cs, memberChars ((key, w) :: rest) = '"' :: cs := by
      cases rest <;> exact ⟨_, rfl⟩
    simp only [chars, List.length_cons, List.length_append] at hfuel
    obtain ⟨f, rfl⟩ : ∃ f, fuel = f + 1 := ⟨fuel - 1, by omega⟩
    have hread := readMembers_chars ((key, w) :: rest) f (depth - 1) .gap r (by simp) hmembers
      (by omega)
    rw [hhead, List.cons_append] at hread
    rw [barred_object]
    simp only [chars, List.cons_append, List.append_assoc, List.nil_append]
    rw [readValue, skipBlanks_cons (by decide), hhead]
    simp [skipBlanks, isBlank, hread]

theorem readItems_chars : (items : List Wire) → (fuel depth : Nat) → (r : List Char) →
    items ≠ [] → plainItems items → 2 * (itemChars items).length ≤ fuel →
    readItems (fuel + 1) depth (itemChars items ++ ']' :: r) = (barredItems depth items, some r)
  | [], fuel, depth, r, hne, _, _ => absurd rfl hne
  | [w], fuel, depth, r, _, hw, hfuel => by
    have hplain : w.isPlain := by simpa [plainItems] using hw
    have hpos := length_chars_pos hplain
    simp only [itemChars] at hfuel ⊢
    obtain ⟨f, rfl⟩ : ∃ f, fuel = f + 1 := ⟨fuel - 1, by omega⟩
    have hread := readValue_chars w f depth (']' :: r) hplain
      (endsNumber_of_cons (.inr (.inl rfl)) r) (by omega)
    rw [readItems, hread]
    simp [skipBlanks, isBlank, barredItems]
  | w :: x :: rest, fuel, depth, r, _, hw, hfuel => by
    obtain ⟨hplain, hrest⟩ : w.isPlain ∧ plainItems (x :: rest) := by
      simpa only [plainItems, Bool.and_eq_true] using hw
    have hpos := length_chars_pos hplain
    simp only [itemChars, List.length_append, List.length_cons] at hfuel
    obtain ⟨f, rfl⟩ : ∃ f, fuel = f + 1 := ⟨fuel - 1, by omega⟩
    have hread := readValue_chars w f depth (',' :: (itemChars (x :: rest) ++ ']' :: r)) hplain
      (endsNumber_of_cons (.inl rfl) _) (by omega)
    have hreadRest := readItems_chars (x :: rest) f depth r (by simp) hrest (by omega)
    simp only [itemChars, List.append_assoc, List.cons_append]
    rw [readItems, hread]
    simp [skipBlanks, isBlank, hreadRest, barredItems]

theorem readMembers_chars : (members : List (String × Wire)) → (fuel depth : Nat) →
    (lack : WireError → WireError → Fault) → (r : List Char) →
    members ≠ [] → plainMembers members → 2 * (memberChars members).length ≤ fuel →
    readMembers (fuel + 1) depth lack (memberChars members ++ '\x7d' :: r) =
      (barredMembers depth members, some r)
  | [], fuel, depth, lack, r, hne, _, _ => absurd rfl hne
  | [(key, w)], fuel, depth, lack, r, _, hw, hfuel => by
    have hplain : w.isPlain := by simpa [plainMembers] using hw
    have hkey := two_le_length_stringChars key
    simp only [memberChars, List.length_append, List.length_cons] at hfuel
    obtain ⟨f, rfl⟩ : ∃ f, fuel = f + 1 + 1 := ⟨fuel - 2, by omega⟩
    have hread := readValue_chars w f depth ('\x7d' :: r) hplain
      (endsNumber_of_cons (.inr (.inr rfl)) r) (by omega)
    simp only [memberChars, List.append_assoc, List.cons_append]
    rw [readMembers_key, readMember, skipBlanks_cons (by decide)]
    simp [hread, skipBlanks, isBlank, barredMembers]
  | (key, w) :: x :: rest, fuel, depth, lack, r, _, hw, hfuel => by
    obtain ⟨hplain, hrest⟩ : w.isPlain ∧ plainMembers (x :: rest) := by
      simpa only [plainMembers, Bool.and_eq_true] using hw
    have hkey := two_le_length_stringChars key
    simp only [memberChars, List.length_append, List.length_cons] at hfuel
    obtain ⟨f, rfl⟩ : ∃ f, fuel = f + 1 + 1 := ⟨fuel - 2, by omega⟩
    have hread := readValue_chars w f depth (',' :: (memberChars (x :: rest) ++ '\x7d' :: r)) hplain
      (endsNumber_of_cons (.inl rfl) _) (by omega)
    have hreadRest := readMembers_chars (x :: rest) f depth (fun e _ => .stop e) r (by simp) hrest
      (by omega)
    simp only [memberChars, List.append_assoc, List.cons_append]
    rw [readMembers_key, readMember, skipBlanks_cons (by decide)]
    simp [hread, skipBlanks, isBlank, hreadRest, barredMembers]

end

/-- Different values have different texts. -/
theorem text_injective {v w : Wire} (hv : v.isPlain) (hw : w.isPlain) (h : v.text = w.text) :
    v = w := by
  have hchars : v.chars = w.chars := String.ofList_injective h
  have hends : EndsNumber [] := by
    intro c rest hcons
    cases hcons
  have hreadV := readValue_chars v (2 * v.chars.length) (max v.depth w.depth) [] hv hends (by omega)
  have hreadW := readValue_chars w (2 * w.chars.length) (max v.depth w.depth) [] hw hends (by omega)
  rw [barred_eq_self _ v (by omega)] at hreadV
  rw [hchars, hreadW, barred_eq_self _ w (by omega)] at hreadV
  exact (Prod.mk.inj hreadV).1.symm

theorem decodeText_text {α : Type} (decode : Wire → Except WireError α) {w : Wire}
    (hw : w.isPlain) : decodeText decode w.text = decode (w.barred maxDepth) := by
  have hends : EndsNumber [] := by
    intro c rest hcons
    cases hcons
  have hread := readValue_chars w (2 * w.chars.length + 1) maxDepth [] hw hends (by omega)
  rw [List.append_nil] at hread
  unfold decodeText
  simp only [text, String.toList_ofList, hread]
  cases decode (w.barred maxDepth) with
  | error e => rfl
  | ok a => rfl

end EventFilter.Wire
