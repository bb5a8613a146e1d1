import EventFilter.Data.Basic
import EventFilter.Operator

/-! Comparison of literals by meaning: numbers across their kinds, texts against patterns, lists
element by element. -/

namespace EventFilter.Data

/-- The value of a number in units of `2 ^ (-1074)`, which every number is a multiple of; none
for a NaN and for all other literals. -/
def units? : Data → Option Int
  | int64 n => some (n.toInt * Double.one)
  | uint64 n => some (n.toNat * Double.one)
  | double x => x.units?
  | _ => none

/-- The order of two literals by value; none when they are not comparable. -/
def order? : Data → Data → Option Ordering
  | duration a, duration b => some (compare a.toInt b.toInt)
  | time a, time b => some (compare a.toInt b.toInt)
  | string a, string b => some (compare a b)
  | a, b =>
    match a.units?, b.units? with
    | some m, some n => some (compare m n)
    | _, _ => none

mutual

/-- Equality by meaning. What is not comparable is equal only to itself. -/
def equals : Data → Data → Bool
  | pattern p, string s => p.isMatch s
  | string s, pattern p => p.isMatch s
  | list as, list bs => equalsAll as bs
  | a, b =>
    match order? a b with
    | some o => o = .eq
    | none => a = b

def equalsAll : List Data → List Data → Bool
  | [], [] => true
  | a :: as, b :: bs => a.equals b && equalsAll as bs
  | _, _ => false

end

/-- Whether a list has an element equal to the needle, or a text a part that the needle is or
matches. -/
def contains : Data → Data → Bool
  | list items, needle => items.any (·.equals needle)
  | string s, string part => Text.isInfix part.toList s.toList
  | string s, pattern p => p.search s
  | _, _ => false

/-- Whether the relation holds. An ordering of literals that are not comparable does not. -/
def holds (a : Data) (op : Operator) (b : Data) : Bool :=
  match op with
  | .equal => a.equals b
  | .notEqual => !a.equals b
  | .less => order? a b = some .lt
  | .lessEqual => order? a b = some .lt ∨ order? a b = some .eq
  | .greater => order? a b = some .gt
  | .greaterEqual => order? a b = some .gt ∨ order? a b = some .eq
  | .isIn => b.contains a
  | .notIn => !b.contains a
  | .ni => a.contains b
  | .notNi => !a.contains b

end EventFilter.Data
