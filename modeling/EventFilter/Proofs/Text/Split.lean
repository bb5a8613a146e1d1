import EventFilter.Text.Split
import Mathlib.Data.List.Basic

/-! Texts split at a separator. The parts of a text end in those of another iff the text is the other
one or ends in it behind a separator. -/

namespace EventFilter.Text

variable {sep : Char} {xs ys : List Char} {parts rest : List (List Char)}

theorem splitOn_eq (sep : Char) (xs : List Char) : splitOn sep xs = xs.splitOn sep := by
  induction xs with
  | nil => simp [splitOn]
  | cons c xs ih =>
    rw [splitOn, ih, List.splitOn_cons_eq_if_modifyHead]
    cases hparts : xs.splitOn sep with
    | nil => exact absurd hparts (List.splitOn_ne_nil sep xs)
    | cons part parts => by_cases hc : c = sep <;> simp [hc]

theorem splitOn_append_cons (sep : Char) (xs ys : List Char) :
    splitOn sep (xs ++ sep :: ys) = splitOn sep xs ++ splitOn sep ys := by
  simp only [splitOn_eq, List.splitOn_append_cons_self]

theorem splitOn_of_not_mem (h : sep ∉ xs) : splitOn sep xs = [xs] := by
  rw [splitOn_eq, List.splitOn_eq_singleton h]

theorem splitOn_ne_nil (sep : Char) (xs : List Char) : splitOn sep xs ≠ [] := by
  rw [splitOn_eq]
  exact List.splitOn_ne_nil sep xs

theorem intercalate_splitOn (sep : Char) (xs : List Char) :
    [sep].intercalate (splitOn sep xs) = xs := by
  rw [splitOn_eq, List.intercalate_splitOn]

theorem intercalate_append (hparts : parts ≠ []) (hrest : rest ≠ []) :
    [sep].intercalate (parts ++ rest) = [sep].intercalate parts ++ sep :: [sep].intercalate rest := by
  induction parts with
  | nil => exact absurd rfl hparts
  | cons part parts ih =>
    by_cases hnil : parts = []
    · subst hnil
      simp [List.intercalate_cons_of_ne_nil hrest]
    · have happend : parts ++ rest ≠ [] := List.append_ne_nil_of_left_ne_nil hnil rest
      rw [List.cons_append, List.intercalate_cons_of_ne_nil happend,
        List.intercalate_cons_of_ne_nil hnil, ih hnil]
      simp

theorem splitOn_suffix_iff :
    splitOn sep xs <:+ splitOn sep ys ↔ ys = xs ∨ sep :: xs <:+ ys := by
  constructor
  · rintro ⟨parts, hparts⟩
    have hjoin : [sep].intercalate (parts ++ splitOn sep xs) = ys := by
      rw [hparts, intercalate_splitOn]
    by_cases hnil : parts = []
    · subst hnil
      exact .inl (hjoin.symm.trans (intercalate_splitOn sep xs))
    · rw [intercalate_append hnil (splitOn_ne_nil sep xs), intercalate_splitOn] at hjoin
      exact .inr ⟨_, hjoin⟩
  · rintro (rfl | ⟨front, rfl⟩)
    · exact List.suffix_rfl
    · rw [splitOn_append_cons]
      exact List.suffix_append ..

end EventFilter.Text
