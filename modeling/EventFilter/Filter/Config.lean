/-! Configuration of filters. -/

namespace EventFilter

/-- Which checks may skip a partition: schema and synopses, the schema alone, or none. -/
inductive Pruning where
  | auto | schemaOnly | disabled
  deriving DecidableEq

def Pruning.text : Pruning → String
  | auto => "Auto"
  | schemaOnly => "SchemaOnly"
  | disabled => "Disabled"

structure FilterConfig where
  pruning : Pruning := .auto
  pruneMetadata : Bool := false
  boolSynopses : Bool := true
  timeSynopses : Bool := true
  deriving DecidableEq

namespace FilterConfig

def anySynopses (c : FilterConfig) : Bool := c.boolSynopses || c.timeSynopses

/-- Without any kind of synopsis only the schema is left to check. -/
def effective (c : FilterConfig) : FilterConfig :=
  if c.pruning = .auto ∧ c.anySynopses = false then { c with pruning := .schemaOnly } else c

end FilterConfig

end EventFilter
