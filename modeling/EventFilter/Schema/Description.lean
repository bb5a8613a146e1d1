import EventFilter.Schema.Basic

/-! A full description of a schema and its types, for diagnosis. -/

namespace EventFilter

def describeOption : Option String → String
  | none => "None"
  | some s => "Some(" ++ Text.quote s ++ ")"

/-- The members of a structure with its name in front. -/
def describeStructure (name : String) (members : List (String × String)) : String :=
  name ++ " \x7b " ++ ", ".intercalate (members.map fun (k, v) => k ++ ": " ++ v) ++ " \x7d"

def describeList (items : List String) : String := "[" ++ ", ".intercalate items ++ "]"

def Attribute.describe (a : Attribute) : String :=
  describeStructure "Attribute" [("key", Text.quote a.key), ("value", describeOption a.value)]

namespace DataType

def describeWith (kind : String) (l : Label) : String :=
  describeStructure "Type" [("kind", kind), ("name", describeOption l.name),
    ("attributes", describeList (l.attributes.map Attribute.describe))]

mutual

def describe : DataType → String
  | scalar k l => describeWith k.wireName l
  | list t l => describeWith ("List(" ++ t.describe ++ ")") l
  | record fs l => describeWith ("Record(" ++ describeList (describeFields fs) ++ ")") l

def describeFields : List Field → List String
  | [] => []
  | (name, t) :: rest =>
    describeStructure "RecordField" [("name", Text.quote name), ("ty", t.describe)]
      :: describeFields rest

end

end DataType

def Schema.describe (s : Schema) : String :=
  describeStructure "Schema" [("name", Text.quote s.name),
    ("fingerprint", Text.quote s.fingerprint),
    ("fields", describeList (DataType.describeFields s.fields))]

end EventFilter
