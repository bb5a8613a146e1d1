import EventFilter.Wire.Basic

/-! Reading JSON text. Where something else was expected the text is malformed, or truncated if
it has ended. Containers may nest to a limit. -/

namespace EventFilter

namespace Wire

abbrev Read (α : Type) := Except WireError (α × List Char)

def isBlank (c : Char) : Bool := c == ' ' || c == '\t' || c == '\n' || c == '\r'

def skipBlanks (cs : List Char) : List Char := cs.dropWhile isBlank

/-- The error at a place where something else was expected. -/
def unexpected : List Char → WireError
  | [] => .truncated
  | _ :: _ => .malformed

def readWord (w : Wire) : List Char → List Char → Read Wire
  | [], cs => .ok (w, cs)
  | c :: word, d :: cs => if c = d then readWord w word cs else .error .malformed
  | _ :: _, [] => .error .truncated

/-! ### Numbers -/

def digitsValue (digits : List Char) : Nat :=
  digits.foldl (fun n c => 10 * n + (c.toNat - '0'.toNat)) 0

/-- At least one digit. -/
def readDigits (cs : List Char) : Read (List Char) :=
  match cs.takeWhile Char.isDigit with
  | [] => .error (unexpected cs)
  | digits => .ok (digits, cs.dropWhile Char.isDigit)

/-- Digits without a superfluous zero in front. -/
def readWhole (cs : List Char) : Read (List Char) :=
  match cs with
  | '0' :: d :: rest => if d.isDigit then .error .malformed else .ok (['0'], d :: rest)
  | _ => readDigits cs

def readFraction (cs : List Char) : Read (List Char) :=
  match cs with
  | '.' :: rest => readDigits rest
  | _ => .ok ([], cs)

/-- The exponent, if one follows. -/
def readExponent (cs : List Char) : Read (Option Int) :=
  match cs with
  | e :: rest =>
    if e = 'e' ∨ e = 'E' then
      let (negative, rest) := match rest with
        | '-' :: rest => (true, rest)
        | '+' :: rest => (false, rest)
        | _ => (false, rest)
      match readDigits rest with
      | .ok (digits, rest) =>
        let n : Int := digitsValue digits
        .ok (some (if negative then -n else n), rest)
      | .error e => .error e
    else .ok (none, cs)
  | [] => .ok (none, cs)

/-- A number from behind its sign. A negative zero is no integer. -/
def readNumber (negative : Bool) (cs : List Char) : Read Wire :=
  match readWhole cs with
  | .error e => .error e
  | .ok (whole, cs) =>
    match readFraction cs with
    | .error e => .error e
    | .ok (fraction, cs) =>
      match readExponent cs with
      | .error e => .error e
      | .ok (exponent, cs) =>
        let n := digitsValue (whole ++ fraction)
        if fraction.isEmpty && exponent.isNone && !(negative && n == 0) then
          .ok (.integer (if negative then -n else n), cs)
        else
          .ok (.real negative n (exponent.getD 0 - fraction.length), cs)

/-! ### Strings -/

def hexUnit? (a b c d : Char) : Option Nat := do
  let digits ← [a, b, c, d].mapM Text.hexDigit?
  return digits.foldl (fun n d => 16 * n + d) 0

def isLeading (n : Nat) : Bool := 0xd800 ≤ n && n < 0xdc00

def isTrailing (n : Nat) : Bool := 0xdc00 ≤ n && n < 0xe000

def pairValue (lead trail : Nat) : Nat := 0x10000 + (lead - 0xd800) * 0x400 + (trail - 0xdc00)

/-- The error of an escape that names no character: one that lacks its four bytes has ended. -/
def brokenEscape (cs : List Char) : WireError :=
  if (String.ofList cs).utf8ByteSize < 4 then .truncated else .malformed

/-- What a backslash and one further character stand for. -/
def shortEscape? : Char → Option Char
  | '"' => some '"'
  | '\\' => some '\\'
  | '/' => some '/'
  | 'b' => some '\x08'
  | 'f' => some '\x0c'
  | 'n' => some '\n'
  | 'r' => some '\r'
  | 't' => some '\t'
  | _ => none

/-- The units of a string from behind its opening quote, one for each character or escape. Only
escapes have units that are halves of surrogate pairs. -/
def readUnits : List Char → List Nat × Except WireError (List Char)
  | [] => ([], .error .truncated)
  | '"' :: rest => ([], .ok rest)
  | ['\\'] => ([], .error .truncated)
  | '\\' :: 'u' :: a :: b :: c :: d :: rest =>
    match hexUnit? a b c d with
    | some n => push n (readUnits rest)
    | none => ([], .error (brokenEscape (a :: b :: c :: d :: rest)))
  | '\\' :: 'u' :: rest => ([], .error (brokenEscape rest))
  | '\\' :: c :: rest =>
    match shortEscape? c with
    | some c => push c.toNat (readUnits rest)
    | none => ([], .error .malformed)
  | c :: rest =>
    if c.toNat < 32 then ([], .error .malformed) else push c.toNat (readUnits rest)
where
  push (n : Nat) (r : List Nat × Except WireError (List Char)) :
      List Nat × Except WireError (List Char) := (n :: r.1, r.2)

/-- The characters of some units, unless half of a surrogate pair stands alone. -/
def pairUnits? : List Nat → Option (List Char)
  | [] => some []
  | n :: rest =>
    if isTrailing n then none
    else if isLeading n then
      match rest with
      | m :: rest =>
        if isTrailing m then (pairUnits? rest).map (Char.ofNat (pairValue n m) :: ·) else none
      | [] => none
    else (pairUnits? rest).map (Char.ofNat n :: ·)

/-- What was read, and the rest of the text unless reading stopped. -/
abbrev Scan (α : Type) := α × Option (List Char)

/-- A string from behind its opening quote. The second half of a pair may be what is missing at
the end of the text. -/
def readString (cs : List Char) : Scan (Except Fault String) :=
  match readUnits cs with
  | (units, .ok rest) =>
    match pairUnits? units with
    | some s => (.ok (String.ofList s), some rest)
    | none => (.error (.unpaired none), some rest)
  | (units, .error e) =>
    let units := if units.getLast?.any isLeading then units.dropLast else units
    (.error (if (pairUnits? units).isSome then .stop e else .unpaired (some e)), none)

/-! ### Values -/

def stopped (f : Fault) : Scan Wire := (.fault f, none)

def scanNumber (negative : Bool) (cs : List Char) : Scan Wire :=
  match readNumber negative cs with
  | .ok (w, rest) => (w, some rest)
  | .error e => stopped (.token e .malformed)

def scanWord (w : Wire) (word : String) (cs : List Char) : Scan Wire :=
  match readWord w word.toList cs with
  | .ok (w, rest) => (w, some rest)
  | .error e => stopped (.token e e)

/-- The error where a text has to begin with a name and does not. -/
def nameError : List Char → WireError
  | [] => .truncated
  | 'n' :: rest => (scanWord .null "ull" rest).1.refusal
  | 't' :: rest => (scanWord (.bool true) "rue" rest).1.refusal
  | 'f' :: rest => (scanWord (.bool false) "alse" rest).1.refusal
  | '-' :: rest => (scanNumber true rest).1.refusal
  | '[' :: _ => .mismatch
  | '\x7b' :: _ => .mismatch
  | c :: rest => if c.isDigit then (scanNumber false (c :: rest)).1.refusal else .malformed

mutual

/-- A value, within `depth` further containers. -/
def readValue : Nat → Nat → List Char → Scan Wire
  | 0, _, _ => stopped (.stop .malformed)
  | fuel + 1, depth, cs =>
    match skipBlanks cs with
    | [] => stopped (.stop .truncated)
    | 'n' :: rest => scanWord .null "ull" rest
    | 't' :: rest => scanWord (.bool true) "rue" rest
    | 'f' :: rest => scanWord (.bool false) "alse" rest
    | '"' :: rest =>
      match readString rest with
      | (.ok s, rest) => (.string s, rest)
      | (.error f, rest) => (.fault f, rest)
    | '-' :: rest => scanNumber true rest
    | '[' :: rest =>
      let (items, rest) := match skipBlanks rest with
        | ']' :: rest => ([], some rest)
        | rest => readItems fuel (depth - 1) rest
      (.array (if depth = 0 then .fault .barrier :: items else items), rest)
    | '\x7b' :: rest =>
      let (members, rest) := match skipBlanks rest with
        | '\x7d' :: rest => ([], some rest)
        | rest => readMembers fuel (depth - 1) .gap rest
      (.object (if depth = 0 then ("", .fault .barrier) :: members else members), rest)
    | c :: rest =>
      if c.isDigit then scanNumber false (c :: rest) else stopped (.stop .malformed)

/-- The items of an array up to and with the closing bracket. -/
def readItems : Nat → Nat → List Char → Scan (List Wire)
  | 0, _, _ => ([.fault (.stop .malformed)], none)
  | fuel + 1, depth, cs =>
    match readValue fuel depth cs with
    | (w, none) => ([w], none)
    | (w, some rest) =>
      match skipBlanks rest with
      | ']' :: rest => ([w], some rest)
      | ',' :: rest =>
        let (items, rest) := readItems fuel depth rest
        (w :: items, rest)
      | rest => ([w, .fault (.gap (unexpected rest) (unexpected rest))], none)

/-- The members of an object up to and with the closing brace, with the fault that the lack of a
key is. -/
def readMembers :
    Nat → Nat → (WireError → WireError → Fault) → List Char → Scan (List (String × Wire))
  | 0, _, lack, _ => ([("", .fault (lack .malformed .malformed))], none)
  | fuel + 1, depth, lack, cs =>
    match skipBlanks cs with
    | '"' :: rest =>
      match readString rest with
      | (.ok key, some rest) => readMember fuel depth key rest
      | (.error (.unpaired later), rest) =>
        let (members, rest) := match later, rest with
          | none, some rest => readMember fuel depth "" rest
          | later, _ =>
            let e := later.getD .malformed
            ([("", .fault (lack e e))], none)
        (("", .fault .barrier) :: members, rest)
      | (.error f, _) => ([("", .fault (lack f.needed f.needed))], none)
      | (.ok _, none) => ([("", .fault (lack .truncated .truncated))], none)
    | rest => ([("", .fault (lack (unexpected rest) (nameError rest)))], none)

/-- A member from behind its key, and the members after it. -/
def readMember : Nat → Nat → String → List Char → Scan (List (String × Wire))
  | 0, _, key, _ => ([(key, .fault (.stop .malformed))], none)
  | fuel + 1, depth, key, cs =>
    match skipBlanks cs with
    | ':' :: rest =>
      match readValue fuel depth rest with
      | (w, none) => ([(key, w)], none)
      | (w, some rest) =>
        match skipBlanks rest with
        | '\x7d' :: rest => ([(key, w)], some rest)
        | ',' :: rest =>
          let (members, rest) := readMembers fuel depth (fun e _ => .stop e) rest
          ((key, w) :: members, rest)
        | rest => ([(key, w), ("", .fault (.gap (unexpected rest) (unexpected rest)))], none)
    | rest => ([(key, .fault (.stop (unexpected rest)))], none)

end

/-- The deepest nesting of containers that is used. -/
def maxDepth : Nat := 127

/-- Reads a text and decodes its value. The decoder comes first: blanks are all that may follow
the value. Every two steps of the reader take a character, so that twice the length of the text
is fuel enough. -/
def decodeText {α : Type} (decode : Wire → Except WireError α) (s : String) :
    Except WireError α :=
  let cs := s.toList
  let (w, rest) := readValue (2 * cs.length + 2) maxDepth cs
  match decode w with
  | .error e => .error e
  | .ok a => if rest.any fun cs => (skipBlanks cs).isEmpty then .ok a else .error .malformed

end Wire

end EventFilter
