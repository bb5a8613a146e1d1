import EventFilter.Pattern.Regex

/-! Matching in one pass over the text. A matcher is an expression in which a character is marked
when the text read so far can end there. A step reads one character and moves the marks; it
leaves alone what no mark can enter or leave. Anchors are looked up in the situation of a place:
they never need to read the text itself. -/

namespace EventFilter

open EventFilter.Text (CodePoints)

/-! ### Situations -/

/-- Everything that anchors ask about a place, as five bits of a number. -/
def situation (before after : Option Char) : Nat :=
  let word (c : Option Char) : Bool := c.any Text.isWord
  before.isNone.toNat + 2 * after.isNone.toNat + 4 * (before.all (· == '\n')).toNat +
    8 * (after.all (· == '\n')).toNat + 16 * (word before != word after).toNat

def Anchor.holdsIn : Anchor → Nat → Bool
  | textStart, k => k.testBit 0
  | textEnd, k => k.testBit 1
  | lineStart, k => k.testBit 2
  | lineEnd, k => k.testBit 3
  | wordBoundary, k => k.testBit 4
  | noWordBoundary, k => !k.testBit 4

/-- A set of situations, as a bit for each. -/
abbrev Situations := Nat

def Situations.all : Situations := (1 <<< 32) - 1

def Anchor.situations (a : Anchor) : Situations :=
  (List.range 32).foldl (fun s k => if a.holdsIn k then s ||| 1 <<< k else s) 0

/-! ### Matchers -/

/-- What surrounding parts need to know of a matcher: the situations in which it matches the
empty text, those in which a match that has read something ends here, those in which some of
its copies, if it is a row of copies, have ended here, and whether it has a mark. -/
structure Reach where
  skips : Situations
  ends : Situations
  exits : Situations
  live : Bool

/-- A row of `copies` may be left after each of them where it stands in `upTo`. -/
inductive Matcher where
  | gate (situations : Situations)
  | char (accepts : CodePoints) (marked : Bool)
  | both (first second : Matcher) (reach : Reach)
  | either (left right : Matcher) (reach : Reach)
  | loop (body : Matcher) (reach : Reach)
  | copies (first second : Matcher) (reach : Reach)
  | upTo (row : Matcher) (reach : Reach)

namespace Matcher

def reach : Matcher → Reach
  | gate s => ⟨s, 0, 0, false⟩
  | char _ marked =>
    let s := if marked then Situations.all else 0
    ⟨0, s, s, marked⟩
  | both _ _ r => r
  | either _ _ r => r
  | loop _ r => r
  | copies _ _ r => r
  | upTo _ r => r

def skips (m : Matcher) : Situations := m.reach.skips

def ends (m : Matcher) : Situations := m.reach.ends

def live (m : Matcher) : Bool := m.reach.live

/-- The situations in which one matcher after the other has ended. -/
def endsAfter (a b : Matcher) : Situations := (a.ends &&& b.skips) ||| b.ends

def andThen (a b : Matcher) : Matcher :=
  both a b ⟨a.skips &&& b.skips, endsAfter a b, endsAfter a b, a.live || b.live⟩

def orElse (a b : Matcher) : Matcher :=
  either a b ⟨a.skips ||| b.skips, a.ends ||| b.ends, a.ends ||| b.ends, a.live || b.live⟩

def star (a : Matcher) : Matcher := loop a ⟨Situations.all, a.ends, a.ends, a.live⟩

def append (a b : Matcher) : Matcher :=
  copies a b ⟨a.skips &&& b.skips, endsAfter a b, a.reach.exits ||| b.reach.exits,
    a.live || b.live⟩

def atMost (row : Matcher) : Matcher :=
  upTo row ⟨Situations.all, row.reach.exits, row.reach.exits, row.live⟩

def empty : Matcher := gate Situations.all

/-- Reads a character at a place in situation `k`. A match may begin at the place if `enter`. -/
def step (k : Nat) (c : Char) : Bool → Matcher → Matcher
  | _, gate s => gate s
  | enter, char accepts marked =>
    if enter || marked then char accepts (enter && accepts.holds c.toNat)
    else char accepts marked
  | enter, both a b r =>
    if enter || r.live then
      andThen (step k c enter a)
        (step k c (enter && a.skips.testBit k || a.ends.testBit k) b)
    else both a b r
  | enter, either a b r =>
    if enter || r.live then orElse (step k c enter a) (step k c enter b) else either a b r
  | enter, loop a r =>
    if enter || r.live then star (step k c (enter || a.ends.testBit k) a) else loop a r
  | enter, copies a b r =>
    if enter || r.live then
      append (step k c enter a)
        (step k c (enter && a.skips.testBit k || a.ends.testBit k) b)
    else copies a b r
  | enter, upTo row r =>
    if enter || r.live then atMost (step k c enter row) else upTo row r

/-- Whether a match ends at a place in situation `k`. -/
def isDone (m : Matcher) (k : Nat) : Bool := (m.skips ||| m.ends).testBit k

/-- Whether a match ends in the text, given the character before it. One may begin anywhere. -/
def run : Matcher → Option Char → List Char → Bool
  | m, before, [] => m.isDone (situation before none)
  | m, before, c :: rest =>
    let k := situation before (some c)
    m.isDone k || run (m.step k c true) (some c) rest

def search (m : Matcher) (text : List Char) : Bool := m.run none text

/-! ### From expressions -/

def pairs {α : Type} (f : α → α → α) : List α → List α
  | a :: b :: rest => f a b :: pairs f rest
  | short => short

theorem length_pairs_le {α : Type} (f : α → α → α) (items : List α) :
    (pairs f items).length ≤ items.length := by
  fun_induction pairs f items with
  | case1 a b rest ih => simp only [List.length_cons]; omega
  | case2 => simp

/-- Combines neighbours until one item is left, so that no part lies deep. -/
def balanced {α : Type} (f : α → α → α) (unit : α) : List α → α
  | [] => unit
  | [a] => a
  | a :: b :: rest => balanced f unit (f a b :: pairs f rest)
termination_by items => items.length
decreasing_by
  have h := length_pairs_le f rest
  simp only [List.length_cons]
  omega

/-- A row of `n` copies. -/
def row (m : Matcher) (n : Nat) : Matcher :=
  if n = 0 then empty
  else if n = 1 then m
  else
    let half := row m (n / 2)
    if n % 2 = 0 then half.append half else (half.append half).append m
termination_by n
decreasing_by omega

def repeated (bounds : Bounds) (m : Matcher) : Matcher :=
  (row m bounds.least).andThen
    (match bounds.most with
      | none => star m
      | some most => atMost (row m (most - bounds.least)))

mutual

def ofRegex : Regex → Matcher
  | .empty => empty
  | .literal chars => balanced andThen empty (chars.map fun c => char (.single c.toNat) false)
  | .set accepts => char accepts false
  | .anchor a => gate a.situations
  | .group body => ofRegex body
  | .sequence parts => balanced andThen empty (ofRegexes parts)
  | .choice parts => balanced orElse (char [] false) (ofRegexes parts)
  | .repeated bounds _ body => (ofRegex body).repeated bounds

def ofRegexes : List Regex → List Matcher
  | [] => []
  | r :: rest => ofRegex r :: ofRegexes rest

end

end Matcher

end EventFilter
