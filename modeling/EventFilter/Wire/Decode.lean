import EventFilter.Wire.Reader

/-! Decoding wire values of a known shape. A structure is written as an object with its members
by name, and is also read from an array with its members by position. Of several errors the first
in the order of the text counts, and an error of a whole comes after those of its parts. -/

namespace EventFilter.Wire

/-- A value of another shape. -/
def refuse {α : Type} (w : Wire) : Except WireError α := .error w.refusal

/-- A value where its container should have ended. -/
def superfluous : Wire → WireError
  | fault (.gap e _) => e
  | _ => .malformed

/-- The error of a member that has no key, if it has none. -/
def keyless : Wire → Option WireError
  | fault f => f.keyless
  | _ => none

/-- The error of a member whose key is no name, if it is none. -/
def nameless : Wire → Option WireError
  | fault f => f.nameless
  | _ => none

mutual

/-- The error where a value is passed over, if it cannot. -/
def passed : Wire → Option WireError
  | array items => passedItems items
  | object members => passedMembers members
  | fault f => f.passed
  | _ => none

def passedItems : List Wire → Option WireError
  | [] => none
  | w :: rest => w.passed.or (passedItems rest)

def passedMembers : List (String × Wire) → Option WireError
  | [] => none
  | (_, w) :: rest => w.passed.or (passedMembers rest)

end

def asString : Wire → Except WireError String
  | string s => .ok s
  | w => w.refuse

def asBool : Wire → Except WireError Bool
  | bool b => .ok b
  | w => w.refuse

/-- An integer from `low` to `high`. -/
def asInteger (low high : Int) : Wire → Except WireError Int
  | integer n => if low ≤ n ∧ n ≤ high then .ok n else (integer n).refuse
  | w => w.refuse

/-- A natural number below `2 ^ width`. -/
def asNatural (width : Nat) (w : Wire) : Except WireError Nat :=
  match asInteger 0 ((1 <<< width : Nat) - 1) w with
  | .ok n => .ok n.toNat
  | .error e => .error e

def asInt64 (w : Wire) : Except WireError Int64 :=
  match asInteger Int64.minValue.toInt Int64.maxValue.toInt w with
  | .ok n => .ok (Int64.ofInt n)
  | .error e => .error e

def asOption {α : Type} (f : Wire → Except WireError α) : Wire → Except WireError (Option α)
  | null => .ok none
  | w => match f w with
    | .ok a => .ok (some a)
    | .error e => .error e

def eachItem {α : Type} (f : Wire → Except WireError α) : List Wire → Except WireError (List α)
  | [] => .ok []
  | w :: rest =>
    match f w with
    | .error e => .error e
    | .ok a =>
      match eachItem f rest with
      | .ok items => .ok (a :: items)
      | .error e => .error e

def asList {α : Type} (f : Wire → Except WireError α) : Wire → Except WireError (List α)
  | array items => eachItem f items
  | w => w.refuse

/-! ### Structures -/

/-- A result, or an error and the place in the structure where it arose. -/
def Placed (α : Type) : Type := Except (Nat × WireError) α

namespace Placed

def combine {α β : Type} : Placed (α → β) → Placed α → Placed β
  | .ok f, .ok a => .ok (f a)
  | .ok _, .error e => .error e
  | .error e, .ok _ => .error e
  | .error d, .error e => .error (if e.1 < d.1 then e else d)

/-- Both parts are decoded, and the earlier error counts. -/
instance : Applicative Placed where
  pure a := .ok a
  seq f x := combine f (x ())

def locate (place : Nat) {α : Type} : Except WireError α → Placed α
  | .ok a => .ok a
  | .error e => .error (place, e)

end Placed

/-- The members of a structure that have been found, with their places. The fault is the first
error that lies in none of them. -/
structure Members where
  found : List (String × Nat × Wire) := []
  size : Nat
  named : Bool
  fault : Placed Unit := .ok ()

namespace Members

/-- Adds the members of an object from a place on. Of two members with one key the first is
found, and the second is an error. -/
def addNamed (expected : List String) (place : Nat) : List (String × Wire) → Members → Members
  | [], m => m
  | (key, w) :: rest, m =>
    let known := expected.contains key
    let error := w.keyless.or
      (if known then if m.found.any (·.1 == key) then some .mismatch else none else w.passed)
    match error with
    | some e => { m with fault := .error (place, e) }
    | none =>
      addNamed expected (place + 1) rest
        (if known then { m with found := m.found ++ [(key, place, w)] } else m)

def ofObject (expected : List String) (members : List (String × Wire)) : Members :=
  addNamed expected 0 members { size := members.length, named := true }

def ofArray (expected : List String) (items : List Wire) : Members where
  found := expected.zip ((List.range items.length).zip items)
  size := items.length
  named := false
  fault := match items.drop expected.length with
    | [] => .ok ()
    | w :: _ => .error (expected.length, w.superfluous)

/-- A member that may not be absent. -/
def required {α : Type} (m : Members) (key : String) (f : Wire → Except WireError α) :
    Placed α :=
  match m.found.lookup key with
  | some (place, w) => Placed.locate place (f w)
  | none => .error (m.size, .mismatch)

/-- A member whose absence has a meaning. -/
def defaulted {α : Type} (m : Members) (key : String) (default : α)
    (f : Wire → Except WireError α) : Placed α :=
  match m.found.lookup key with
  | some (place, w) => Placed.locate place (f w)
  | none => .ok default

/-- A member that may be null. In an object it may be absent as well. -/
def nullable {α : Type} (m : Members) (key : String) (f : Wire → Except WireError α) :
    Placed (Option α) :=
  if m.named then m.defaulted key none (asOption f) else m.required key (asOption f)

end Members

/-- Decodes a structure from the expected members, in the order that they have in an array. -/
def asStructure {α : Type} (expected : List String) (f : Members → Placed α) (w : Wire) :
    Except WireError α :=
  match w with
  | object members => finish (.ofObject expected members)
  | array items => finish (.ofArray expected items)
  | w => w.refuse
where
  finish (m : Members) : Except WireError α :=
    match Placed.combine ((fun a _ => a) <$> f m) m.fault with
    | .ok a => .ok a
    | .error (_, e) => .error e

end EventFilter.Wire
