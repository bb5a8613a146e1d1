import EventFilter.Diagnostic
import EventFilter.Eval.Test
import EventFilter.Expr.Basic

/-! Evaluation of expressions, row by row over a slice or without any input. A predicate that has
no meaning there is unknown in every row and leaves a diagnostic. -/

namespace EventFilter

/-- Where extractors read from. Without a slice there is one row without columns. -/
inductive Input where
  | constant
  | slice (s : Slice)

def Input.rows : Input → Nat
  | constant => 1
  | slice s => s.rows

/-- The metadata that a slice has for a key. -/
def Slice.metadata? (s : Slice) : MetaKey → Option Data
  | .schema => some (.string s.schema.name)
  | .schemaId => some (.string s.schema.fingerprint)
  | .importTime => s.importTime.map .time

/-- The truths of a comparison with an extractor, or what keeps it from having any. -/
def Extractor.truths (x : Extractor) (op : Operator) (d : Data) :
    Input → Except Diagnostic (List Truth)
  | .constant =>
    .error (.error ("cannot evaluate " ++ x.text ++ " without input")
      ["expected a constant expression"])
  | .slice s =>
    match x with
    | metadata key => .ok (List.replicate s.rows ((s.metadata? key).map (·.holds op d)))
    | data schema offset =>
      if schema ≠ s.schema then
        .error (.warning ("extractor bound to schema '" ++ schema.name ++ "' applied to '" ++
          s.schema.name ++ "'"))
      else
        match s.column offset with
        | .ok c => .ok (c.test op d)
        | .error err => .error (.warning err.message)
    | field _ | type _ =>
      .error (.warning ("unresolved extractor " ++ x.text)
        ["resolve against schema '" ++ s.schema.name ++ "' first"])

def Predicate.truths (input : Input) (p : Predicate) : Except Diagnostic (List Truth) :=
  match p.form with
  | .constant a op b => .ok (List.replicate input.rows (some (a.holds op b)))
  | .test x op d => x.truths op d input
  | .pair _ _ => .error (.error ("cannot compare two extractors: " ++ p.text))

/-- The connective in three-valued logic, and the truth of an empty group. -/
def Connective.combine : Connective → Truth → Truth → Truth
  | all => Truth.and
  | any => Truth.or

def Connective.unit : Connective → Truth
  | all => some true
  | any => some false

/-- Why an expression without input has no value; its diagnostics say more. -/
inductive EvaluationError where
  | failed
  deriving DecidableEq

def EvaluationError.message : EvaluationError → String
  | failed => "evaluation failed; see emitted diagnostics"

namespace Expr

mutual

/-- One truth for each row. -/
def truths (input : Input) : Expr → List Truth
  | empty => List.replicate input.rows (some false)
  | group c children => groupTruths input c children
  | negation child => (child.truths input).map Truth.not
  | predicate p =>
    match p.truths input with
    | .ok ts => ts
    | .error _ => List.replicate input.rows none

def groupTruths (input : Input) (c : Connective) : List Expr → List Truth
  | [] => List.replicate input.rows c.unit
  | e :: rest => List.zipWith c.combine (e.truths input) (groupTruths input c rest)

end

/-- The diagnostics of all predicates, from left to right. No predicate is skipped, whatever the
others are. -/
def diagnostics (input : Input) (e : Expr) : List Diagnostic :=
  e.leaves.filterMap fun p =>
    match p.truths input with
    | .ok _ => none
    | .error d => some d

/-- The rows of the slice that satisfy the expression. -/
def mask (s : Slice) (e : Expr) : List Bool := (e.truths (.slice s)).map Truth.holds

/-- The value of an expression without input. It fails if a diagnostic is an error. -/
def constant (e : Expr) : Except EvaluationError Data :=
  if hasError (e.diagnostics .constant) then .error .failed
  else
    match e.truths .constant with
    | [some b] => .ok (.bool b)
    | _ => .ok .null

/-- The value together with its diagnostics. Of a failure nothing is reported. -/
def fold? (e : Expr) : Option (Data × List Diagnostic) :=
  match e.constant with
  | .ok d => some (d, e.diagnostics .constant)
  | .error _ => none

end Expr

end EventFilter
