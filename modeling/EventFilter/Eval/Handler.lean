import EventFilter.Eval.Basic

/-! Evaluation that reports to a handler while it goes. Problems are emitted where they occur, from
left to right, and evaluation goes on with unknown truths. -/

namespace EventFilter

/-- What takes diagnostics. Its state is what it has taken so far. -/
structure Handler (σ : Type) where
  emit : σ → Diagnostic → σ

variable {σ : Type}

namespace Handler

def emitAll (h : Handler σ) (s : σ) (ds : List Diagnostic) : σ := ds.foldl h.emit s

/-- Keeps all diagnostics. -/
def collector : Handler (List Diagnostic) := ⟨fun ds d => ds ++ [d]⟩

/-- Passes all diagnostics on and remembers whether an error was among them. -/
def tracker (h : Handler σ) : Handler (σ × Bool) :=
  ⟨fun s d => (h.emit s.1 d, s.2 || d.severity = .error)⟩

/-- What a step that may go wrong leaves: its truths, or unknown in every row. -/
def checked (h : Handler σ) (rows : Nat) (s : σ) : Except Diagnostic (List Truth) → List Truth × σ
  | .ok ts => (ts, s)
  | .error d => (List.replicate rows none, h.emit s d)

end Handler

/-- The truths of two sides row by row. -/
def Connective.combineRows (c : Connective) (ts us : List Truth) : Except Diagnostic (List Truth) :=
  if ts.length = us.length then .ok (List.zipWith c.combine ts us)
  else .error (.error
    "Compute error: Cannot perform bitwise operation on arrays of different length")

namespace Expr

mutual

def run (h : Handler σ) (input : Input) (s : σ) : Expr → List Truth × σ
  | empty => (List.replicate input.rows (some false), s)
  | group c children => runAll h input c (List.replicate input.rows c.unit) s children
  | negation child =>
    let (ts, s) := child.run h input s
    (ts.map Truth.not, s)
  | predicate p => h.checked input.rows s (p.truths input)

/-- Combines the children with what came before them. All of them are evaluated. -/
def runAll (h : Handler σ) (input : Input) (c : Connective) (acc : List Truth) (s : σ) :
    List Expr → List Truth × σ
  | [] => (acc, s)
  | e :: rest =>
    let (next, s) := e.run h input s
    let (acc, s) := h.checked input.rows s (c.combineRows acc next)
    runAll h input c acc s rest

end

/-- The rows of the slice that satisfy the expression. -/
def maskWith (h : Handler σ) (x : Slice) (s : σ) (e : Expr) : List Bool × σ :=
  let (ts, s) := e.run h (.slice x) s
  (ts.map Truth.holds, s)

/-- The value of an expression without input. It fails once an error was emitted. -/
def constantWith (h : Handler σ) (s : σ) (e : Expr) : Except EvaluationError Data × σ :=
  let (ts, s, failed) := e.run h.tracker .constant (s, false)
  if failed then (.error .failed, s)
  else
    match ts with
    | [some b] => (.ok (.bool b), s)
    | [none] => (.ok .null, s)
    | _ =>
      let message := "constant evaluation produced " ++ toString ts.length ++ " rows"
      (.error .failed, h.emit s (.error message))

/-- The value of an expression without input, if there is one. The handler hears nothing of a
failure. -/
def foldWith (h : Handler σ) (s : σ) (e : Expr) : Option Data × σ :=
  match e.constantWith .collector [] with
  | (.ok d, ds) => (some d, h.emitAll s ds)
  | (.error _, _) => (none, s)

end Expr

end EventFilter
