import EventFilter.Order.Key
import EventFilter.Pattern.Footprint
import EventFilter.Pattern.Matcher
import EventFilter.Pattern.Reader

/-! Patterns: regular expressions that are known to compile, both on their own and as the
description of a whole text. Two patterns are equal when their sources and case flags are. -/

namespace EventFilter

/-- The matcher for an expression whose automata stay within the limit. -/
def Matcher.compile? (ignoreCase anywhere : Bool) (source : String) : Option Matcher :=
  match Regex.parse? ignoreCase source with
  | some r => if Footprint.isAdmitted anywhere r then some (ofRegex r) else none
  | none => none

structure Pattern where
  source : String
  ignoreCase : Bool
  whole : Matcher
  part : Matcher
  whole_eq : Matcher.compile? ignoreCase false ("^(?:" ++ source ++ ")$") = some whole
  part_eq : Matcher.compile? ignoreCase true source = some part

namespace Pattern

/-- The source alone has to be an expression: its parentheses may not reach beyond it. -/
def compile? (source : String) (ignoreCase : Bool) : Option Pattern :=
  match h : Matcher.compile? ignoreCase false ("^(?:" ++ source ++ ")$"),
      h' : Matcher.compile? ignoreCase true source with
  | some whole, some part => some ⟨source, ignoreCase, whole, part, h, h'⟩
  | _, _ => none

/-- Whether the whole text matches. -/
def isMatch (p : Pattern) (s : String) : Bool := p.whole.search s.toList

/-- Whether some part of the text matches. -/
def search (p : Pattern) (s : String) : Bool := p.part.search s.toList

def text (p : Pattern) : String := "/" ++ p.source ++ "/" ++ if p.ignoreCase then "i" else ""

def orderKey (p : Pattern) : OrderKey :=
  .tuple [.text p.source, .int (if p.ignoreCase then 1 else 0)]

theorem ext {p q : Pattern} (hs : p.source = q.source) (hi : p.ignoreCase = q.ignoreCase) :
    p = q := by
  obtain ⟨s, i, w, r, hw, hr⟩ := p
  obtain ⟨s', i', w', r', hw', hr'⟩ := q
  simp only at hs hi
  subst hs hi
  rw [hw] at hw'
  rw [hr] at hr'
  simp only [Option.some.injEq] at hw' hr'
  subst hw' hr'
  rfl

theorem orderKey_injective {p q : Pattern} (h : p.orderKey = q.orderKey) : p = q := by
  simp only [orderKey, OrderKey.tuple.injEq, List.cons.injEq, OrderKey.text.injEq,
    OrderKey.int.injEq, and_true] at h
  refine ext h.1 ?_
  cases hp : p.ignoreCase <;> cases hq : q.ignoreCase <;> simp_all

instance : Ord Pattern :=
  ⟨fun p q => (compare p.source q.source).then (compare p.ignoreCase q.ignoreCase)⟩

instance : DecidableEq Pattern := fun p q =>
  decidable_of_iff (p.orderKey = q.orderKey) ⟨orderKey_injective, fun h => h ▸ rfl⟩

end Pattern

end EventFilter
