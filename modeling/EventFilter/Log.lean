import EventFilter.Diagnostic

/-! The log lines of the library: a level, then the event, the component and its details. -/

namespace EventFilter

inductive LogEvent where
  | diagnostic (d : Diagnostic)
  | resolveDropped (extractor schema : String)
  | opaqueDecodeFailed (name : String) (version : Nat) (error : String)
  | opaqueKept (name : String) (version bytes : Nat)
  | partitionBuilt (schema : String) (events synopses : Nat)
  | filterCreated (expr residual pruning : String)
  | schemaResolved (schema fingerprint expr : String)
  | partitionChecked (schema : String) (events : Nat) (mightMatch : Bool)
  deriving DecidableEq

namespace LogEvent

def level : LogEvent → String
  | diagnostic d => match d.severity with
    | .warning => "WARN"
    | .error => "ERROR"
  | opaqueDecodeFailed _ _ _ => "WARN"
  | partitionChecked _ _ _ => "TRACE"
  | _ => "DEBUG"

def name : LogEvent → String
  | diagnostic _ => "diagnostic"
  | resolveDropped _ _ => "resolve_dropped"
  | opaqueDecodeFailed _ _ _ => "opaque_decode_failed"
  | opaqueKept _ _ _ => "opaque_kept"
  | partitionBuilt _ _ _ => "partition_synopsis_built"
  | filterCreated _ _ _ => "filter_created"
  | schemaResolved _ _ _ => "schema_resolved"
  | partitionChecked _ _ _ => "partition_checked"

def component : LogEvent → String
  | diagnostic _ => "diagnostics"
  | resolveDropped _ _ => "resolve"
  | opaqueDecodeFailed _ _ _ | opaqueKept _ _ _ => "synopsis_factory"
  | partitionBuilt _ _ _ => "partition_synopsis"
  | filterCreated _ _ _ | schemaResolved _ _ _ | partitionChecked _ _ _ => "filter"

def details : LogEvent → String
  | diagnostic d => d.text
  | resolveDropped extractor schema => "extractor=" ++ extractor ++ " schema=" ++ schema
  | opaqueDecodeFailed name version error =>
    "name=" ++ name ++ " version=" ++ toString version ++ " error=" ++ error
  | opaqueKept name version bytes =>
    "name=" ++ name ++ " version=" ++ toString version ++ " bytes=" ++ toString bytes
  | partitionBuilt schema events synopses =>
    "schema=" ++ schema ++ " events=" ++ toString events ++ " synopses=" ++ toString synopses
  | filterCreated expr residual pruning =>
    "expr=" ++ expr ++ " residual=" ++ residual ++ " pruning=" ++ pruning
  | schemaResolved schema fingerprint expr =>
    "schema=" ++ schema ++ " fingerprint=" ++ fingerprint ++ " expr=" ++ expr
  | partitionChecked schema events mightMatch =>
    "schema=" ++ schema ++ " events=" ++ toString events ++ " might_match=" ++
      if mightMatch then "true" else "false"

def line (e : LogEvent) : String :=
  e.level ++ " event=" ++ e.name ++ " component=" ++ e.component ++ " " ++ e.details

end LogEvent

end EventFilter
