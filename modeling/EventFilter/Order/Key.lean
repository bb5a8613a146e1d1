/-! Order keys: trees of integers and texts, compared lexicographically. A type whose values
map to distinct keys inherits a total order and a decidable equality from them. -/

namespace EventFilter

inductive OrderKey where
  | int (n : Int)
  | text (s : String)
  | tuple (parts : List OrderKey)

namespace OrderKey

mutual

/-- Integers come before texts and texts before tuples; tuples compare part by part. -/
def compare : OrderKey → OrderKey → Ordering
  | .int m, .int n => Ord.compare m n
  | .int _, _ => .lt
  | .text _, .int _ => .gt
  | .text s, .text t => Ord.compare s t
  | .text _, .tuple _ => .lt
  | .tuple xs, .tuple ys => compareAll xs ys
  | .tuple _, _ => .gt

def compareAll : List OrderKey → List OrderKey → Ordering
  | [], [] => .eq
  | [], _ :: _ => .lt
  | _ :: _, [] => .gt
  | x :: xs, y :: ys => (x.compare y).then (compareAll xs ys)

end

/-- The key of an optional part: absence comes first. -/
def option {α : Type} (key : α → OrderKey) : Option α → OrderKey
  | none => .tuple []
  | some a => .tuple [key a]

mutual

theorem compare_eq_iff : (a b : OrderKey) → (a.compare b = .eq ↔ a = b)
  | .int m, .int n => by simp [compare]
  | .int _, .text _ => by simp [compare]
  | .int _, .tuple _ => by simp [compare]
  | .text _, .int _ => by simp [compare]
  | .text s, .text t => by simp [compare]
  | .text _, .tuple _ => by simp [compare]
  | .tuple xs, .tuple ys => by simp [compare, compareAll_eq_iff xs ys]
  | .tuple _, .int _ => by simp [compare]
  | .tuple _, .text _ => by simp [compare]

theorem compareAll_eq_iff : (xs ys : List OrderKey) → (compareAll xs ys = .eq ↔ xs = ys)
  | [], [] => by simp [compareAll]
  | [], _ :: _ => by simp [compareAll]
  | _ :: _, [] => by simp [compareAll]
  | x :: xs, y :: ys => by
    simp [compareAll, Ordering.then_eq_eq, compare_eq_iff x y, compareAll_eq_iff xs ys]

end

mutual

theorem compare_swap : (a b : OrderKey) → b.compare a = (a.compare b).swap
  | .int m, .int n => by simp only [compare]; exact Std.OrientedCmp.eq_swap
  | .int _, .text _ => rfl
  | .int _, .tuple _ => rfl
  | .text _, .int _ => rfl
  | .text s, .text t => by simp only [compare]; exact Std.OrientedCmp.eq_swap
  | .text _, .tuple _ => rfl
  | .tuple xs, .tuple ys => by simp only [compare, compareAll_swap xs ys]
  | .tuple _, .int _ => rfl
  | .tuple _, .text _ => rfl

theorem compareAll_swap : (xs ys : List OrderKey) → compareAll ys xs = (compareAll xs ys).swap
  | [], [] => rfl
  | [], _ :: _ => rfl
  | _ :: _, [] => rfl
  | x :: xs, y :: ys => by
    simp only [compareAll, compare_swap x y, compareAll_swap xs ys, Ordering.swap_then]

end

mutual

theorem compare_lt_trans : (a b c : OrderKey) →
    a.compare b = .lt → b.compare c = .lt → a.compare c = .lt
  | .int l, b, c => by
    cases b <;> cases c <;> simp only [compare, reduceCtorEq, false_implies, implies_true]
    exact Std.TransCmp.lt_trans
  | .text s, b, c => by
    cases b <;> cases c <;> simp only [compare, reduceCtorEq, false_implies, implies_true]
    exact Std.TransCmp.lt_trans
  | .tuple xs, b, c => by
    cases b <;> cases c <;> simp only [compare, reduceCtorEq, false_implies, implies_true]
    exact compareAll_lt_trans xs _ _

theorem compareAll_lt_trans : (xs ys zs : List OrderKey) →
    compareAll xs ys = .lt → compareAll ys zs = .lt → compareAll xs zs = .lt
  | [], ys, zs => by cases ys <;> cases zs <;> simp [compareAll]
  | x :: xs, ys, zs => by
    cases ys with
    | nil => simp [compareAll]
    | cons y ys =>
      cases zs with
      | nil => simp [compareAll]
      | cons z zs =>
        simp only [compareAll, Ordering.then_eq_lt, compare_eq_iff]
        rintro (hxy | ⟨rfl, hxy⟩) (hyz | ⟨rfl, hyz⟩)
        · exact .inl (compare_lt_trans x y z hxy hyz)
        · exact .inl hxy
        · exact .inl hyz
        · exact .inr ⟨rfl, compareAll_lt_trans xs ys zs hxy hyz⟩

end

instance : DecidableEq OrderKey := fun a b => decidable_of_iff _ (compare_eq_iff a b)

theorem option_injective {α : Type} {key : α → OrderKey} {a b : Option α}
    (inj : ∀ x y, key x = key y → x = y) (h : option key a = option key b) : a = b := by
  cases a <;> cases b <;> simp_all [option]
  exact inj _ _ h

theorem map_injective {α : Type} {key : α → OrderKey} {xs ys : List α}
    (inj : ∀ x y, key x = key y → x = y) (h : xs.map key = ys.map key) : xs = ys := by
  induction xs generalizing ys with
  | nil => cases ys <;> simp_all
  | cons x xs ih =>
    cases ys with
    | nil => simp at h
    | cons y ys =>
      simp only [List.map_cons, List.cons.injEq] at h
      rw [inj x y h.1, ih h.2]

end OrderKey

end EventFilter
