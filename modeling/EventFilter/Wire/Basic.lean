import EventFilter.Text.Quoted

/-! JSON values of the wire format and their text: no blanks, members in the given order, and
only quotes, backslashes and control characters escaped. A value that was read may have faults
where its text was wrong. They count only if a decoder comes to them, and the first one that it
comes to is the error, so that errors of syntax and of shape come in the order of the text. -/

namespace EventFilter

/-- Why a text does not decode: it is no JSON, it ends early, or it is JSON of another shape. -/
inductive WireError where
  | malformed
  | truncated
  | mismatch
  deriving DecidableEq

def WireError.category : WireError → String
  | malformed => "syntax"
  | truncated => "eof"
  | mismatch => "data"

/-- What stands for a part of a text that is not JSON, or that can be passed over but not used. -/
inductive Fault where
  /-- Nothing is read from here on. -/
  | stop (e : WireError)
  /-- Neither a key nor the end of the container stands where one has to. The second error is
  for decoders that need the key as a name. -/
  | gap (e asName : WireError)
  /-- A number or a word breaks off, with the errors for its use and for passing over it. -/
  | token (used passed : WireError)
  /-- A string with half of a surrogate pair alone, and what goes wrong further on in it. -/
  | unpaired (later : Option WireError)
  /-- The container lies too deep, or a key of it has half of a surrogate pair alone. -/
  | barrier
  deriving DecidableEq

namespace Fault

/-- The error where a decoder needs a value. -/
def needed : Fault → WireError
  | stop e => e
  | gap e _ => e
  | token used _ => used
  | unpaired _ => .malformed
  | barrier => .malformed

/-- The error where a decoder passes over a value, if it cannot. -/
def passed : Fault → Option WireError
  | stop e => some e
  | gap e _ => some e
  | token _ passed => some passed
  | unpaired later => later
  | barrier => none

/-- The error where a decoder needs the key of a member. -/
def keyless : Fault → Option WireError
  | gap e _ => some e
  | barrier => some .malformed
  | _ => none

/-- The error where a decoder needs the key of a member as a name. -/
def nameless : Fault → Option WireError
  | gap _ asName => some asName
  | barrier => some .malformed
  | _ => none

end Fault

/-- A number that is not written as an integer is `digits * 10 ^ exponent` with a sign. -/
inductive Wire where
  | null
  | bool (b : Bool)
  | integer (n : Int)
  | real (negative : Bool) (digits : Nat) (exponent : Int)
  | string (s : String)
  | array (items : List Wire)
  | object (members : List (String × Wire))
  | fault (f : Fault)

namespace Wire

def naturalChars (n : Nat) : List Char := Nat.toDigits 10 n

/-- Numbers from here on have no 64-bit form: half a unit in the last place above the largest. -/
def overflowBound : Nat := (1 <<< 1024) - (1 <<< 970)

def overflows : Wire → Bool
  | integer n => overflowBound ≤ n.natAbs
  | real _ digits exponent =>
    digits ≠ 0 && (400 < exponent + (naturalChars digits).length ||
      (-400 ≤ exponent && exponent ≤ 400 &&
        overflowBound * Nat.pow 10 (-exponent).toNat ≤ digits * Nat.pow 10 exponent.toNat))
  | _ => false

/-- The error of a value of another shape. A number beyond the range of doubles is not even a
number. -/
def refusal : Wire → WireError
  | fault f => f.needed
  | w => if w.overflows then .malformed else .mismatch

def integerChars (n : Int) : List Char :=
  if n < 0 then '-' :: naturalChars n.natAbs else naturalChars n.natAbs

def escapeChar (c : Char) : List Char :=
  match c with
  | '"' => ['\\', '"']
  | '\\' => ['\\', '\\']
  | '\x08' => ['\\', 'b']
  | '\t' => ['\\', 't']
  | '\n' => ['\\', 'n']
  | '\x0c' => ['\\', 'f']
  | '\r' => ['\\', 'r']
  | c =>
    if c.toNat < 32 then
      ['\\', 'u', '0', '0', Nat.digitChar (c.toNat / 16), Nat.digitChar (c.toNat % 16)]
    else [c]

def stringChars (s : String) : List Char := '"' :: (s.toList.flatMap escapeChar ++ ['"'])

mutual

def chars : Wire → List Char
  | null => "null".toList
  | bool b => if b then "true".toList else "false".toList
  | integer n => integerChars n
  | real negative digits exponent =>
    (if negative then ['-'] else []) ++ naturalChars digits ++ 'e' :: integerChars exponent
  | string s => stringChars s
  | array items => '[' :: (itemChars items ++ [']'])
  | object members => '\x7b' :: (memberChars members ++ ['\x7d'])
  | fault _ => []

def itemChars : List Wire → List Char
  | [] => []
  | [w] => w.chars
  | w :: rest => w.chars ++ ',' :: itemChars rest

def memberChars : List (String × Wire) → List Char
  | [] => []
  | [(key, w)] => stringChars key ++ ':' :: w.chars
  | (key, w) :: rest => stringChars key ++ ':' :: (w.chars ++ ',' :: memberChars rest)

end

def text (w : Wire) : String := String.ofList w.chars

/-- Places a member before the first one with a greater key. -/
def insertMember (m : String × Wire) : List (String × Wire) → List (String × Wire)
  | [] => [m]
  | n :: rest => if m.1 < n.1 then m :: n :: rest else n :: insertMember m rest

mutual

/-- The value with the members of all its objects in the order of their keys. -/
def sorted : Wire → Wire
  | array items => array (sortedItems items)
  | object members => object (sortedMembers members)
  | w => w

def sortedItems : List Wire → List Wire
  | [] => []
  | w :: rest => w.sorted :: sortedItems rest

def sortedMembers : List (String × Wire) → List (String × Wire)
  | [] => []
  | (key, w) :: rest => insertMember (key, w.sorted) (sortedMembers rest)

end

mutual

/-- How many containers lie around the innermost value. -/
def depth : Wire → Nat
  | array items => itemDepth items + 1
  | object members => memberDepth members + 1
  | _ => 0

def itemDepth : List Wire → Nat
  | [] => 0
  | w :: rest => max w.depth (itemDepth rest)

def memberDepth : List (String × Wire) → Nat
  | [] => 0
  | (_, w) :: rest => max w.depth (memberDepth rest)

end

end Wire

end EventFilter
