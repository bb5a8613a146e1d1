/-! Splitting a text at a separator. -/

namespace EventFilter.Text

/-- The parts between the separators; there is one part more than there are separators. -/
def splitOn (sep : Char) : List Char → List (List Char)
  | [] => [[]]
  | c :: rest =>
    match splitOn sep rest with
    | [] => [[]]
    | part :: parts => if c = sep then [] :: part :: parts else (c :: part) :: parts

end EventFilter.Text
