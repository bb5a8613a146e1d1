import EventFilter.Schema.Basic
import EventFilter.Text.Split

/-! Selectors: dotted paths that name one field exactly, segment by segment from the root. -/

namespace EventFilter

inductive SelectorError where
  | invalid (text : String)
  | fieldOfNonRecord (field actual : String)
  | fieldNotFound (field path : String)
  deriving DecidableEq

def SelectorError.message : SelectorError → String
  | invalid text => "invalid selector '" ++ text ++ "'"
  | fieldOfNonRecord field actual =>
    "field access on non-record: '" ++ field ++ "' on type " ++ actual
  | fieldNotFound field path => "field not found: '" ++ field ++ "' in '" ++ path ++ "'"

structure Selector where
  path : List String
  path_ne_nil : path ≠ []
  segment_ne_empty : ∀ segment ∈ path, segment ≠ ""

namespace Selector

def joinPath (path : List String) : String := ".".intercalate path

def ofPath (path : List String) : Except SelectorError Selector :=
  if h : path ≠ [] ∧ ∀ segment ∈ path, segment ≠ "" then .ok ⟨path, h.1, h.2⟩
  else .error (.invalid (joinPath path))

def parse (s : String) : Except SelectorError Selector :=
  ofPath ((Text.splitOn '.' s.toList).map String.ofList)

def text (s : Selector) : String := joinPath s.path

/-- The position of the first field with the name. -/
def position? (name : String) : List Field → Option (Nat × DataType)
  | [] => none
  | (n, t) :: rest =>
    if n = name then some (0, t) else (position? name rest).map fun (i, t) => (i + 1, t)

/-- Follows segments from a type; `whole` is the path that errors show. -/
def walk (whole : String) : List String → DataType → Except SelectorError Offset
  | [], _ => .ok []
  | segment :: rest, t =>
    match t.fields? with
    | none => .error (.fieldOfNonRecord segment t.text)
    | some fields =>
      match position? segment fields with
      | none => .error (.fieldNotFound segment whole)
      | some (i, inner) => (i :: ·) <$> walk whole rest inner

/-- The offset of the field that the selector names within a type. -/
def resolve (s : Selector) (t : DataType) : Except SelectorError Offset := walk s.text s.path t

end Selector

end EventFilter
