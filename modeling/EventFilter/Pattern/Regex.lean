import EventFilter.Text.CharClass

/-! Regular expressions, and the constructors that keep them simple: sequences and choices are
flat, neighbouring literals are one, what all alternatives begin with stands in front of them, and
what can only match the empty text is not repeated. -/

namespace EventFilter

open EventFilter.Text (CodePoints)

inductive Anchor where
  | textStart | textEnd
  | lineStart | lineEnd
  | wordBoundary | noWordBoundary
  deriving DecidableEq

/-- The bounds of a repetition: at least `least` times and at most `most` times, if given. -/
structure Bounds where
  least : Nat
  most : Option Nat
  deriving DecidableEq

/-- A set of characters has not exactly one member, a literal has at least one character. Groups
are those that capture. -/
inductive Regex where
  | empty
  | literal (chars : List Char)
  | set (accepts : CodePoints)
  | anchor (a : Anchor)
  | group (body : Regex)
  | sequence (parts : List Regex)
  | choice (parts : List Regex)
  | repeated (bounds : Bounds) (greedy : Bool) (body : Regex)

namespace Regex

def ofSet : CodePoints → Regex
  | [(lo, hi)] => if lo = hi then literal [Char.ofNat lo] else set [(lo, hi)]
  | accepts => set accepts

def literal? : Regex → Option (List Char)
  | literal cs => some cs
  | _ => none

mutual

/-- Whether every match is empty. -/
def isVacuous : Regex → Bool
  | empty => true
  | literal cs => cs.isEmpty
  | set _ => false
  | anchor _ => true
  | group body => body.isVacuous
  | sequence parts => allVacuous parts
  | choice parts => allVacuous parts
  | repeated _ _ body => body.isVacuous

def allVacuous : List Regex → Bool
  | [] => true
  | r :: rest => r.isVacuous && allVacuous rest

end

mutual

/-- The least number of bytes of a match; none where a part can never match. -/
def minBytes : Regex → Option Nat
  | empty => some 0
  | literal cs => some (String.ofList cs).utf8ByteSize
  | set accepts => accepts.head?.map fun r => (Char.ofNat r.1).utf8Size
  | anchor _ => some 0
  | group body => body.minBytes
  | sequence parts => sumBytes parts
  | choice parts => leastBytes parts
  | repeated bounds _ body => body.minBytes.map (bounds.least * ·)

def sumBytes : List Regex → Option Nat
  | [] => some 0
  | r :: rest =>
    match r.minBytes, sumBytes rest with
    | some m, some n => some (m + n)
    | _, _ => none

def leastBytes : List Regex → Option Nat
  | [] => none
  | [r] => r.minBytes
  | r :: rest =>
    match r.minBytes, leastBytes rest with
    | some m, some n => some (min m n)
    | _, _ => none

end

mutual

/-- Whether two expressions are the same and capture nothing. -/
def same : Regex → Regex → Bool
  | empty, empty => true
  | literal cs, literal ds => cs == ds
  | set s, set t => s == t
  | anchor a, anchor b => a == b
  | sequence rs, sequence ss => allSame rs ss
  | choice rs, choice ss => allSame rs ss
  | repeated b g r, repeated c h s => b == c && g == h && same r s
  | _, _ => false

def allSame : List Regex → List Regex → Bool
  | [], [] => true
  | r :: rs, s :: ss => same r s && allSame rs ss
  | _, _ => false

end

/-! ### Sequences and repetitions -/

def prepend : Regex → List Regex → List Regex
  | empty, rest => rest
  | literal cs, literal ds :: rest => literal (cs ++ ds) :: rest
  | r, rest => r :: rest

def flatSequence : List Regex → List Regex
  | [] => []
  | sequence inner :: rest => inner.foldr prepend (flatSequence rest)
  | r :: rest => prepend r (flatSequence rest)

def inSequence (parts : List Regex) : Regex :=
  match flatSequence parts with
  | [] => empty
  | [r] => r
  | rs => sequence rs

def repeatWithin (bounds : Bounds) (greedy : Bool) (body : Regex) : Regex :=
  let bounds := if body.isVacuous then ⟨min bounds.least 1, some (min (bounds.most.getD 1) 1)⟩
    else bounds
  match bounds with
  | ⟨0, some 0⟩ => empty
  | ⟨1, some 1⟩ => body
  | bounds => repeated bounds greedy body

/-! ### Choices -/

def flatChoice : List Regex → List Regex
  | [] => []
  | choice inner :: rest => inner ++ flatChoice rest
  | r :: rest => r :: flatChoice rest

def oneChar? : Regex → Option CodePoints
  | literal [c] => some (CodePoints.single c.toNat)
  | _ => none

def set? : Regex → Option CodePoints
  | set accepts => some accepts
  | _ => none

def sequence? : Regex → Option (List Regex)
  | sequence parts => some parts
  | _ => none

/-- The set that the alternatives are, if all are single characters or all are sets. -/
def unionSet? (parts : List Regex) : Option CodePoints :=
  ((parts.mapM oneChar?).or (parts.mapM set?)).map (·.foldl CodePoints.union [])

/-- How many parts two sequences have in common at their beginning. -/
def commonLength : List Regex → List Regex → Nat
  | r :: rs, s :: ss => if r.same s then commonLength rs ss + 1 else 0
  | _, _ => 0

mutual

def size : Regex → Nat
  | group body => body.size + 1
  | sequence parts => sizeAll parts + 1
  | choice parts => sizeAll parts + 1
  | repeated _ _ body => body.size + 1
  | _ => 1

def sizeAll : List Regex → Nat
  | [] => 0
  | r :: rest => r.size + sizeAll rest

end

/-- A choice with at most `fuel` common beginnings, one within the other, put in front. -/
def choose : Nat → List Regex → Regex
  | fuel, parts =>
    match flatChoice parts with
    | [] => set []
    | [r] => r
    | rs =>
      match unionSet? rs, fuel, rs.mapM sequence? with
      | some accepts, _, _ => ofSet accepts
      | none, fuel + 1, some (first :: others) =>
        let n := others.foldl (fun n s => min n (commonLength first s)) first.length
        if n = 0 then choice rs
        else
          let ends := (first :: others).map fun s => inSequence (s.drop n)
          inSequence (first.take n ++ [choose fuel ends])
      | none, _, _ => choice rs

/-- Every beginning put in front makes the expression smaller. -/
def inChoice (parts : List Regex) : Regex := choose (sizeAll parts) parts

end Regex

end EventFilter
