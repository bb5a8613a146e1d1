import EventFilter.Eval.Basic
import EventFilter.Expr.Normalize
import EventFilter.Expr.Validate
import EventFilter.Filter.Config
import EventFilter.Synopsis.Match

/-! Filters: expressions that are normalized and validated once and resolved once per schema. With
metadata pruning, conjuncts on the schema are left to the schema check and not evaluated. -/

namespace EventFilter

/-- An expression bound to a schema, with the part of it that rows are evaluated on. -/
structure Resolution where
  expr : Expr
  residual : Option Expr

/-- The residual is none when the schema check decides everything. Resolutions are kept by the
fingerprint of their schema. -/
structure Filter where
  config : FilterConfig
  expr : Expr
  residual : Option Expr
  resolved : List (String × Resolution) := []

/-- What an operation on a filter returns, the filter afterwards, and the events on the way. -/
structure Step (α : Type) where
  result : Except ResolveError α
  filter : Filter
  events : List LogEvent

/-- The selected rows of a slice and the diagnostics of their evaluation. -/
structure Evaluation where
  mask : List Bool
  diagnostics : List Diagnostic

/-- The mask of the residual. All rows are selected where nothing is left to evaluate, and no row
where nothing applies to the schema. -/
def Resolution.evaluate (r : Resolution) (s : Slice) : Evaluation :=
  match r.residual with
  | none => ⟨List.replicate s.rows true, []⟩
  | some .empty => ⟨List.replicate s.rows false, []⟩
  | some e => ⟨e.mask s, e.diagnostics (.slice s)⟩

/-- Whether the expression is a predicate on the name or fingerprint of the schema. -/
def Expr.isSchemaTest : Expr → Bool
  | .predicate p =>
    match p.form with
    | .test (.metadata .schema) _ _ | .test (.metadata .schemaId) _ _ => true
    | _ => false
  | _ => false

/-- The expression without its conjuncts on the schema; none if nothing is left. -/
def Expr.withoutSchemaTests (e : Expr) : Option Expr :=
  match e with
  | .group .all children =>
    match children.filter (!·.isSchemaTest) with
    | [] => none
    | rest => some (.join .all rest)
  | e => if e.isSchemaTest then none else some e

namespace Filter

def create (e : Expr) (config : FilterConfig) : Except ValidationError Filter :=
  let config := config.effective
  let normal := e.normalize
  match normal.validate with
  | .error err => .error err
  | .ok () =>
    .ok {
      config
      expr := normal
      residual := if config.pruneMetadata then normal.withoutSchemaTests else some normal }

def createdEvent (f : Filter) : LogEvent :=
  .filterCreated f.expr.text ((f.residual.map Expr.text).getD "<schema only>")
    f.config.pruning.text

/-- Resolves the expression and its residual, which may be the same. -/
def bind (f : Filter) (s : Schema) : Except ResolveError Resolution :=
  match f.expr.resolve s with
  | .error err => .error err
  | .ok expr =>
    match f.residual with
    | none => .ok ⟨expr, none⟩
    | some residual =>
      if residual = f.expr then .ok ⟨expr, some expr⟩
      else
        match residual.resolve s with
        | .error err => .error err
        | .ok residual => .ok ⟨expr, some residual⟩

def bindEvents (f : Filter) (s : Schema) : List LogEvent :=
  let residualEvents := match f.expr.resolve s, f.residual with
    | .ok _, some residual => if residual = f.expr then [] else residual.resolveEvents s
    | _, _ => []
  let done := match f.bind s with
    | .ok r => [.schemaResolved s.name s.fingerprint r.expr.text]
    | .error _ => []
  f.expr.resolveEvents s ++ residualEvents ++ done

/-- The resolution for a schema, from an earlier call if there was one that succeeded. -/
def resolution (f : Filter) (s : Schema) : Step Resolution :=
  match f.resolved.lookup s.fingerprint with
  | some r => ⟨.ok r, f, []⟩
  | none =>
    match f.bind s with
    | .ok r => ⟨.ok r, { f with resolved := (s.fingerprint, r) :: f.resolved }, f.bindEvents s⟩
    | .error err => ⟨.error err, f, f.bindEvents s⟩

/-- The expression bound to the schema. -/
def resolve (f : Filter) (s : Schema) : Step Expr :=
  let step := f.resolution s
  ⟨step.result.map (·.expr), step.filter, step.events⟩

/-- False only if no row of the partition can satisfy the filter. -/
def mightMatch (f : Filter) (part : Partition) : Step Bool :=
  let checked (verdict : Bool) : LogEvent :=
    .partitionChecked part.schema.name part.events.toNat verdict
  let decided (verdict : Bool) : Step Bool := ⟨.ok verdict, f, [checked verdict]⟩
  match f.config.pruning with
  | .disabled => decided true
  | .schemaOnly => decided (f.expr.mightMatchSchema part.schema)
  | .auto =>
    if f.expr.mightMatchSchema part.schema then
      let step := f.resolution part.schema
      match step.result with
      | .error err => ⟨.error err, step.filter, step.events⟩
      | .ok r =>
        let verdict := r.expr.mightMatchSynopses part
        ⟨.ok verdict, step.filter, step.events ++ [checked verdict]⟩
    else decided false

/-- The rows of a slice that satisfy the filter. -/
def evaluate (f : Filter) (s : Slice) : Step Evaluation :=
  if f.expr.mightMatchSchema s.schema then
    let step := f.resolution s.schema
    ⟨step.result.map (·.evaluate s), step.filter, step.events⟩
  else ⟨.ok ⟨List.replicate s.rows false, []⟩, f, []⟩

end Filter

end EventFilter
