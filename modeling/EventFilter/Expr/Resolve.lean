import EventFilter.DataType.Compatible
import EventFilter.Expr.Basic
import EventFilter.Log

/-! Binding an expression to the columns of one schema. An extractor that stands for several
columns becomes a disjunction over them, or under a negated operator a conjunction: some
candidate matches, or none may. One that stands for no column drops its predicate. -/

namespace EventFilter

inductive ResolveError where
  | withoutLiteral (p : Predicate)
  | foreignExtractor (expected actual : String)

def ResolveError.message : ResolveError → String
  | withoutLiteral p => "cannot resolve predicate without a literal operand: " ++ p.text
  | foreignExtractor expected actual =>
    "data extractor bound to schema '" ++ actual ++ "' cannot be resolved against '" ++ expected
      ++ "'"

namespace Extractor

/-- Whether a column of type `t` is of the type that is asked for: of the same name for a
reference, else of the same shape. -/
def matchesType (wanted t : DataType) : Bool :=
  if wanted.isReference then t.name == wanted.name else wanted.congruent t

/-- The leaves that an extractor stands for and whose type suits the comparison. -/
def candidates (x : Extractor) (s : Schema) (op : Operator) (d : Data) : List Leaf :=
  let named := match x with
    | field name => s.namedLeaves name
    | type t => s.leaves.filter fun leaf => matchesType t leaf.type
    | _ => []
  named.filter fun leaf => leaf.type.compatible op d

end Extractor

namespace Predicate

/-- How the comparisons with several columns are joined. -/
def expansion (op : Operator) : Connective := if op.isNegated then .all else .any

def onLeaf (s : Schema) (op : Operator) (d : Data) (leaf : Leaf) : Expr :=
  .predicate ⟨.extractor (.data s leaf.offset), op, .literal d⟩

/-- Constants, metadata and columns of the same schema stay as they are. -/
def resolve (s : Schema) (p : Predicate) : Except ResolveError Expr :=
  match p.form with
  | .constant _ _ _ => .ok (.predicate p)
  | .pair _ _ => .error (.withoutLiteral p)
  | .test (.metadata _) _ _ => .ok (.predicate p)
  | .test (.data bound _) _ _ =>
    if bound = s then .ok (.predicate p) else .error (.foreignExtractor s.name bound.name)
  | .test x op d => .ok (.join (expansion op) ((x.candidates s op d).map (onLeaf s op d)))

end Predicate

namespace Expr

mutual

def resolve (s : Schema) : Expr → Except ResolveError Expr
  | empty => .ok empty
  | group c children =>
    match resolveAll s children with
    | .ok es => .ok (join c es)
    | .error err => .error err
  | negation child =>
    match child.resolve s with
    | .ok empty => .ok empty
    | .ok e => .ok (negation e)
    | .error err => .error err
  | predicate p => p.resolve s

/-- The children that something is left of, or the first error. -/
def resolveAll (s : Schema) : List Expr → Except ResolveError (List Expr)
  | [] => .ok []
  | e :: rest =>
    match e.resolve s with
    | .error err => .error err
    | .ok r =>
      match resolveAll s rest with
      | .error err => .error err
      | .ok es => .ok (if r.isEmpty then es else r :: es)

end

/-- The events of a resolution: one for each predicate that is dropped, up to the first error. -/
def resolveEvents (s : Schema) (e : Expr) : List LogEvent :=
  (e.leaves.takeWhile fun p => (p.resolve s).isOk).filterMap fun p =>
    match p.form, p.resolve s with
    | .test x _ _, .ok .empty => some (.resolveDropped x.text s.name)
    | _, _ => none

end Expr

end EventFilter
