/-! Sets of Unicode scalar values, given as ascending inclusive ranges of code points that neither
overlap nor touch. -/

namespace EventFilter.Text

abbrev CodePoints := List (Nat × Nat)

namespace CodePoints

/-- The search ends at the first range that starts above the code point. -/
def holds : CodePoints → Nat → Bool
  | [], _ => false
  | (lo, hi) :: rest, n => if n < lo then false else n ≤ hi || holds rest n

/-- All scalar values. -/
def all : CodePoints := [(0, 0xd7ff), (0xe000, 0x10ffff)]

def single (n : Nat) : CodePoints := [(n, n)]

/-- Adds a range, joined with the ranges that it overlaps or touches. -/
def insert (lo hi : Nat) : CodePoints → CodePoints
  | [] => [(lo, hi)]
  | (a, b) :: rest =>
    if hi + 1 < a then (lo, hi) :: (a, b) :: rest
    else if b + 1 < lo then (a, b) :: insert lo hi rest
    else insert (min lo a) (max hi b) rest

def union (s t : CodePoints) : CodePoints := t.foldr (fun r s => s.insert r.1 r.2) s

def inter (s t : CodePoints) : CodePoints :=
  s.flatMap fun r => t.filterMap fun q =>
    let lo := max r.1 q.1
    let hi := min r.2 q.2
    if lo ≤ hi then some (lo, hi) else none

/-- The ranges between those of a set, from `start` on. -/
def gaps (start : Nat) : CodePoints → CodePoints
  | [] => [(start, 0x10ffff)]
  | (lo, hi) :: rest => if start < lo then (start, lo - 1) :: gaps (hi + 1) rest
    else gaps (hi + 1) rest

def compl (s : CodePoints) : CodePoints := (gaps 0 s).inter all

def diff (s t : CodePoints) : CodePoints := s.inter t.compl

def between (lo hi : Nat) : CodePoints := inter [(lo, hi)] all

end CodePoints

end EventFilter.Text
