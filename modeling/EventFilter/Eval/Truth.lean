/-! Truth with an unknown value, and the connectives that know as much as both sides allow. -/

namespace EventFilter

/-- Unknown is none. -/
abbrev Truth := Option Bool

namespace Truth

def and : Truth → Truth → Truth
  | some false, _ => some false
  | _, some false => some false
  | some true, some true => some true
  | _, _ => none

def or : Truth → Truth → Truth
  | some true, _ => some true
  | _, some true => some true
  | some false, some false => some false
  | _, _ => none

def not : Truth → Truth
  | some b => some !b
  | none => none

/-- What counts in the end: unknown is not true. -/
def holds (t : Truth) : Bool := t = some true

end Truth

end EventFilter
