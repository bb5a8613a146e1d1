import EventFilter.Pattern.Bytes
import EventFilter.Pattern.Regex
import Std.Data.HashMap

/-! The memory that the byte automata of an expression take, one that reads texts forward and one
that reads them backward. An expression whose automata exceed the limit is refused.

An automaton is a row of states of one size, and some of them carry edges as a payload. Classes of
characters share states, as far as a small table of recently made states remembers them. -/

namespace EventFilter

structure Footprint where
  states : Nat := 0
  payload : Nat := 0

inductive Direction where
  | forward | backward
  deriving DecidableEq

/-- How many states a class remembers while it is laid out. -/
def Direction.places : Direction → Nat
  | forward => 10000
  | backward => 1000

namespace Footprint

def stateSize : Nat := 32

/-- The size of an edge that is labelled with a range of bytes. -/
def edgeSize : Nat := 8

/-- The size of an edge that reads nothing. -/
def jumpSize : Nat := 4

def limit : Nat := 10 * 1024 * 1024

def bytes (f : Footprint) : Nat := stateSize * f.states + f.payload

/-- More states and payload, within the limit. -/
def grow (states payload : Nat) (f : Footprint) : Option Footprint :=
  let f := ⟨f.states + states, f.payload + payload⟩
  if f.bytes ≤ limit then some f else none

def times (step : Footprint → Option Footprint) : Nat → Footprint → Option Footprint
  | 0, f => some f
  | n + 1, f =>
    match step f with
    | some f => times step n f
    | none => none

/-! ### Classes of characters -/

/-- One round of a multiplicative hash of 64 bits. -/
def mix (h : UInt64) (n : Nat) : UInt64 := (h ^^^ UInt64.ofNat n) * 1099511628211

def hash (content : List Nat) : Nat := (content.foldl mix 14695981039346656037).toNat

/-- States with their content, by the place in the table that the content hashes to. A later
state displaces an earlier one. -/
abbrev Memory := Std.HashMap Nat (List Nat × Nat)

/-- The state with the given content: a remembered one, or a new one with a payload. -/
def share (places payload : Nat) (content : List Nat) (memory : Memory) (f : Footprint) :
    Option (Nat × Memory × Footprint) :=
  let place := hash content % places
  match memory[place]? with
  | some (known, state) =>
    if known = content then some (state, memory, f) else make place
  | none => make place
where
  make (place : Nat) : Option (Nat × Memory × Footprint) :=
    (f.grow 1 payload).map fun g => (f.states, memory.insert place (content, f.states), g)

/-- Neighbouring sequences with the same first range, as that range and what follows it. -/
def byFirst : List (List ByteRange) → List (ByteRange × List (List ByteRange))
  | [] => []
  | [] :: rest => byFirst rest
  | (r :: tail) :: rest =>
    match byFirst rest with
    | [] => [(r, [tail])]
    | (q, tails) :: groups =>
      if r = q then (r, tail :: tails) :: groups else (r, [tail]) :: (q, tails) :: groups

/-- The states of the tree that the sequences make up, inner ones first. All sequences end in
the state `last`. -/
def forwardTree (last : Nat) : Nat → List (List ByteRange) → Memory → Footprint →
    Option (Nat × Memory × Footprint)
  | 0, _, memory, f => some (last, memory, f)
  | depth + 1, sequences, memory, f =>
    if sequences.all (·.isEmpty) then some (last, memory, f)
    else do
      let groups := byFirst sequences
      let (content, memory, f) ← groups.foldlM
        (fun (content, memory, f) (r, tails) => do
          let (target, memory, f) ← forwardTree last depth tails memory f
          return (target :: r.2 :: r.1 :: content, memory, f))
        ([], memory, f)
      share Direction.forward.places (edgeSize * groups.length) content.reverse memory f

/-- A path of states for a sequence, as far as no remembered state can be taken. -/
def backwardPath : Nat → List ByteRange → Memory → Footprint → Option (Memory × Footprint)
  | _, [], memory, f => some (memory, f)
  | next, r :: rest, memory, f => do
    let (state, memory, f) ← share Direction.backward.places 0 [next, r.1, r.2] memory f
    backwardPath state rest memory f

def ofSet (direction : Direction) (accepts : Text.CodePoints) (f : Footprint) :
    Option Footprint :=
  if List.all accepts fun r => r.2 < 128 then f.grow 2 (edgeSize * accepts.length)
  else
    let sequences := ByteRange.ofCodePoints accepts
    match direction with
    | .forward => do
      let g ← f.grow 1 0
      let (_, _, g) ← forwardTree f.states 4 sequences ∅ g
      return g
    | .backward => do
      let g ← f.grow 2 (jumpSize * sequences.length)
      let (_, g) ← sequences.foldlM (fun (memory, g) bytes =>
        backwardPath (f.states + 1) bytes memory g) ((∅ : Memory), g)
      return g

/-! ### Literals -/

def ofLiteral (chars : List Char) : Footprint → Option Footprint :=
  grow (String.ofList chars).utf8ByteSize 0

/-- The inner states of the tree of some words. A state has edges of its own for the words before
each word that ends there; such words at the beginning count as one. -/
def ofWords : Nat → List (List Nat) → Footprint
  | 0, _ => {}
  | depth + 1, words =>
    if words.all (·.isEmpty) then {}
    else
      let words := if words.head? = some [] then [] :: words.dropWhile (·.isEmpty) else words
      let parts := (words.splitBy fun u v => u.isEmpty == v.isEmpty).filter (·.head? ≠ some [])
      parts.foldl (fun f part =>
        let heads : List Nat := (part.filterMap (·.head?)).eraseDups
        let edges := if heads.length = 1 then 0 else edgeSize * heads.length
        heads.foldl (fun f b =>
          let inner := ofWords depth ((part.filter (·.head? = some b)).map (·.tail))
          ⟨f.states + inner.states, f.payload + inner.payload⟩)
          ⟨f.states + 1, f.payload + edges⟩)
        ⟨1, jumpSize * (parts.length + words.count [])⟩

/-- A choice between nothing but literals. -/
def ofLiterals (direction : Direction) (literals : List (List Char)) (f : Footprint) :
    Option Footprint :=
  let words := literals.map fun cs =>
    let bytes := cs.flatMap fun c => ByteRange.encode c.toNat
    if direction = .forward then bytes else bytes.reverse
  let tree := ofWords ((words.map (·.length)).foldl max 0 + 1) words
  f.grow (tree.states + 1) tree.payload

/-! ### Expressions -/

/-- What a repetition adds to a body of which one copy adds `step`. -/
def ofRepeated (bounds : Bounds) (consumes : Bool) (step : Footprint → Option Footprint)
    (f : Footprint) : Option Footprint :=
  match bounds with
  | ⟨0, some 1⟩ => do (← step (← f.grow 1 (2 * jumpSize))).grow 1 0
  | ⟨0, none⟩ => do
    if consumes then step (← f.grow 1 (2 * jumpSize))
    else (← step f).grow 3 (4 * jumpSize)
  | ⟨least, none⟩ => do (← times step least f).grow 1 (2 * jumpSize)
  | ⟨least, some most⟩ => do
    let f ← if least = 0 then f.grow 1 0 else times step least f
    if most ≤ least then return f
    else times (fun f => do step (← f.grow 1 (2 * jumpSize))) (most - least) (← f.grow 1 0)

mutual

def ofRegex (direction : Direction) : Regex → Footprint → Option Footprint
  | .empty, f => f.grow 1 0
  | .literal chars, f => ofLiteral chars f
  | .set accepts, f => ofSet direction accepts f
  | .anchor _, f => f.grow 1 0
  | .group body, f =>
    match direction with
    | .forward => do (← ofRegex direction body (← f.grow 1 0)).grow 1 0
    | .backward => ofRegex direction body f
  | .sequence parts, f => ofParts direction parts f
  | .choice (a :: b :: rest), f =>
    match (a :: b :: rest).mapM Regex.literal? with
    | some literals => ofLiterals direction literals f
    | none => do
      let f ← ofRegex direction b (← ofRegex direction a f)
      ofAlternatives direction rest (← f.grow 2 (jumpSize * (rest.length + 2)))
  | .choice parts, f => ofAlternatives direction parts f
  | .repeated bounds _ body, f =>
    ofRepeated bounds (body.minBytes.any (0 < ·)) (ofRegex direction body) f

/-- A sequence is laid out in the direction of reading. -/
def ofParts (direction : Direction) : List Regex → Footprint → Option Footprint
  | [], f => some f
  | r :: rest, f =>
    match direction with
    | .forward => do ofParts direction rest (← ofRegex direction r f)
    | .backward => do ofRegex direction r (← ofParts direction rest f)

def ofAlternatives (direction : Direction) : List Regex → Footprint → Option Footprint
  | [], f => some f
  | r :: rest, f => do ofAlternatives direction rest (← ofRegex direction r f)

end

/-- The whole automaton. An expression that may match anywhere has a loop in front that skips
what precedes the match; going forward the automaton also records where the match is. -/
def ofSearch (direction : Direction) (anywhere : Bool) (r : Regex) : Option Footprint := do
  let f ← if anywhere then grow 3 (edgeSize + 2 * jumpSize) {} else grow 1 0 {}
  let f ← match direction with
    | .forward => ofRegex direction (.group r) f
    | .backward => ofRegex direction r f
  f.grow 1 0

/-- Whether the automata of an expression stay within the limit. -/
def isAdmitted (anywhere : Bool) (r : Regex) : Bool :=
  (ofSearch .forward anywhere r).isSome && (ofSearch .backward anywhere r).isSome

end Footprint

end EventFilter
