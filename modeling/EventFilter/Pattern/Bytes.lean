import EventFilter.Text.CodePoints

/-! The UTF-8 encodings of a set of characters, as sequences of byte ranges. -/

namespace EventFilter

/-- An inclusive range of bytes. -/
abbrev ByteRange := Nat × Nat

namespace ByteRange

def encode (n : Nat) : List Nat := (String.utf8EncodeChar (Char.ofNat n)).map UInt8.toNat

/-- The byte texts from `lo` to `hi`, both with `length` bytes and in ascending order. A first
byte is alone in its range where not all continuations of it belong to the set. -/
def sequences : Nat → List Nat → List Nat → List (List ByteRange)
  | length + 1, a :: lo, b :: hi =>
    if a = b then (sequences length lo hi).map ((a, b) :: ·)
    else
      let whole := lo.map fun _ => ((0x80, 0xbf) : ByteRange)
      let low := if lo.all (· == 0x80) then []
        else (sequences length lo (whole.map (·.2))).map ((a, a) :: ·)
      let high := if hi.all (· == 0xbf) then []
        else (sequences length (whole.map (·.1)) hi).map ((b, b) :: ·)
      let first := if low.isEmpty then a else a + 1
      let last := if high.isEmpty then b else b - 1
      low ++ (if first ≤ last then [(first, last) :: whole] else []) ++ high
  | _, _, _ => [[]]

/-- The code points with encodings of one, two, three and four bytes. -/
def lengthClasses : Text.CodePoints :=
  [(0, 0x7f), (0x80, 0x7ff), (0x800, 0xffff), (0x10000, 0x10ffff)]

/-- The encodings of the members of a set, in ascending order. -/
def ofCodePoints (s : Text.CodePoints) : List (List ByteRange) :=
  (s.inter lengthClasses).flatMap fun r => sequences 4 (encode r.1) (encode r.2)

end ByteRange

end EventFilter
