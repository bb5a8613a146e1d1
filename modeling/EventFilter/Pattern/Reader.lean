import EventFilter.Pattern.Regex
import EventFilter.Text.CaseFold
import EventFilter.Text.Quoted

/-! Reading regular expressions. The reader goes over the text once and keeps the groups that
are still open on a stack. It has no error texts: a text either is an expression or is not. -/

namespace EventFilter.Regex

open EventFilter.Text (CodePoints)

/-- What inline flags switch: case, the meaning of `^` and `$`, whether `.` takes a line break,
and which repetitions are greedy. -/
structure Flags where
  ignoreCase : Bool := false
  multiLine : Bool := false
  dotAll : Bool := false
  swapGreed : Bool := false

/-- Closes a set of characters under simple case folding. -/
def Flags.close (flags : Flags) (accepts : CodePoints) : CodePoints :=
  if flags.ignoreCase then accepts.closeCase else accepts

def Flags.char (flags : Flags) (c : Char) : Regex := ofSet (flags.close (.single c.toNat))

inductive Escape where
  | literal (c : Char)
  | set (accepts : CodePoints)
  | anchor (a : Anchor)

def hexNumber? (digits : List Char) : Option Nat :=
  if digits.isEmpty then none
  else (digits.mapM Text.hexDigit?).map (·.foldl (fun n d => 16 * n + d) 0)

def scalar? (n : Nat) : Option Char :=
  if n.isValidChar then some (Char.ofNat n) else none

/-- A code point in `width` hexadecimal digits, or in any number of them between braces. -/
def codePoint? (width : Nat) : List Char → Option (Char × List Char)
  | '\x7b' :: rest =>
    match rest.dropWhile (· != '\x7d') with
    | [] => none
    | _ :: after => do
      let c ← scalar? (← hexNumber? (rest.takeWhile (· != '\x7d')))
      return (c, after)
  | cs => do
    let digits := cs.take width
    if digits.length < width then none
    else
      let c ← scalar? (← hexNumber? digits)
      return (c, cs.drop width)

/-- Punctuation may always be escaped, letters and digits only where the escape has a meaning. -/
def isEscapable (c : Char) : Bool :=
  c.toNat < 128 && !c.isAlphanum && c != '<' && c != '>'

/-- What follows a backslash. -/
def escape? : List Char → Option (Escape × List Char)
  | [] => none
  | 'x' :: rest => (codePoint? 2 rest).map fun (c, rest) => (.literal c, rest)
  | 'u' :: rest => (codePoint? 4 rest).map fun (c, rest) => (.literal c, rest)
  | 'U' :: rest => (codePoint? 8 rest).map fun (c, rest) => (.literal c, rest)
  | 'd' :: rest => some (.set Text.digitCodePoints, rest)
  | 's' :: rest => some (.set Text.spaceCodePoints, rest)
  | 'w' :: rest => some (.set Text.wordCodePoints, rest)
  | 'D' :: rest => some (.set (CodePoints.compl Text.digitCodePoints), rest)
  | 'S' :: rest => some (.set (CodePoints.compl Text.spaceCodePoints), rest)
  | 'W' :: rest => some (.set (CodePoints.compl Text.wordCodePoints), rest)
  | 'a' :: rest => some (.literal '\x07', rest)
  | 'f' :: rest => some (.literal '\x0c', rest)
  | 't' :: rest => some (.literal '\t', rest)
  | 'n' :: rest => some (.literal '\n', rest)
  | 'r' :: rest => some (.literal '\r', rest)
  | 'v' :: rest => some (.literal '\x0b', rest)
  | 'A' :: rest => some (.anchor .textStart, rest)
  | 'z' :: rest => some (.anchor .textEnd, rest)
  | 'b' :: rest => some (.anchor .wordBoundary, rest)
  | 'B' :: rest => some (.anchor .noWordBoundary, rest)
  | c :: rest => if isEscapable c then some (.literal c, rest) else none

/-! ### Bracketed classes -/

/-- The classes that are named inside brackets between colons. -/
def namedClass? : String → Option CodePoints
  | "alnum" => some [(0x30, 0x39), (0x41, 0x5a), (0x61, 0x7a)]
  | "alpha" => some [(0x41, 0x5a), (0x61, 0x7a)]
  | "ascii" => some [(0, 0x7f)]
  | "blank" => some [(0x09, 0x09), (0x20, 0x20)]
  | "cntrl" => some [(0, 0x1f), (0x7f, 0x7f)]
  | "digit" => some [(0x30, 0x39)]
  | "graph" => some [(0x21, 0x7e)]
  | "lower" => some [(0x61, 0x7a)]
  | "print" => some [(0x20, 0x7e)]
  | "punct" => some [(0x21, 0x2f), (0x3a, 0x40), (0x5b, 0x60), (0x7b, 0x7e)]
  | "space" => some [(0x09, 0x0d), (0x20, 0x20)]
  | "upper" => some [(0x41, 0x5a)]
  | "word" => some [(0x30, 0x39), (0x41, 0x5a), (0x5f, 0x5f), (0x61, 0x7a)]
  | "xdigit" => some [(0x30, 0x39), (0x41, 0x46), (0x61, 0x66)]
  | _ => none

/-- A class in brackets or in colons is closed under case before it is negated. -/
def Flags.finish (flags : Flags) (negated : Bool) (accepts : CodePoints) : CodePoints :=
  if negated then (flags.close accepts).compl else flags.close accepts

/-- Reads what follows `[:`, up to and with `:]`. -/
def namedClassItem? (flags : Flags) (cs : List Char) : Option (CodePoints × List Char) :=
  let (negated, cs) := match cs with
    | '^' :: rest => (true, rest)
    | _ => (false, cs)
  match cs.dropWhile (· != ':') with
  | ':' :: ']' :: rest => do
    let accepts ← namedClass? (String.ofList (cs.takeWhile (· != ':')))
    return (flags.finish negated accepts, rest)
  | _ => none

/-- One literal or set inside brackets; an anchor has no place there. -/
def classItem? : List Char → Option (Escape × List Char)
  | [] => none
  | '\\' :: rest =>
    match escape? rest with
    | some (.anchor _, _) => none
    | item => item
  | c :: rest => some (.literal c, rest)

/-- An item, or the range that it opens. A hyphen before `]` or another hyphen opens none. -/
def classRange? (cs : List Char) : Option (CodePoints × List Char) :=
  match classItem? cs with
  | none => none
  | some (item, rest) =>
    let alone : Option (CodePoints × List Char) := match item with
      | .literal c => some (.single c.toNat, rest)
      | .set accepts => some (accepts, rest)
      | .anchor _ => none
    match rest with
    | '-' :: ']' :: _ => alone
    | '-' :: '-' :: _ => alone
    | '-' :: after =>
      match item, classItem? after with
      | .literal lo, some (.literal hi, rest) =>
        if lo ≤ hi then some (.between lo.toNat hi.toNat, rest) else none
      | _, _ => none
    | _ => alone

inductive SetOperation where
  | intersection | difference | symmetricDifference

def SetOperation.apply : SetOperation → CodePoints → CodePoints → CodePoints
  | intersection, a, b => a.inter b
  | difference, a, b => a.diff b
  | symmetricDifference, a, b => (a.diff b).union (b.diff a)

/-- A set of characters in brackets, and how deep its description nests. -/
structure ClassPart where
  accepts : CodePoints
  depth : Nat := 0

/-- A class whose bracket is still open: what its operations combined so far, the operation that
waits for its right side, and the union of the items since then. -/
structure OpenClass where
  negated : Bool
  left : Option (ClassPart × SetOperation) := none
  items : ClassPart := { accepts := [] }
  count : Nat := 0

namespace OpenClass

def add (k : OpenClass) (part : ClassPart) : OpenClass :=
  { k with
    items := ⟨k.items.accepts.union part.accepts, max k.items.depth part.depth⟩
    count := k.count + 1 }

/-- The items since the last operation. Several of them are a level of their own. -/
def current (k : OpenClass) : ClassPart :=
  if k.count < 2 then k.items else { k.items with depth := k.items.depth + 1 }

def combined (flags : Flags) (k : OpenClass) : ClassPart :=
  match k.left with
  | none => k.current
  | some (left, op) =>
    ⟨op.apply (flags.close left.accepts) (flags.close k.current.accepts),
      max left.depth k.current.depth + 1⟩

def operate (flags : Flags) (k : OpenClass) (op : SetOperation) : OpenClass :=
  { negated := k.negated, left := some (k.combined flags, op) }

def finish (flags : Flags) (k : OpenClass) : ClassPart :=
  let all := k.combined flags
  ⟨flags.finish k.negated all.accepts, all.depth + 1⟩

end OpenClass

/-- Reads what follows `[`: a sign of negation, then hyphens or one `]` that stand for
themselves. -/
def openClass (cs : List Char) : OpenClass × List Char :=
  let (negated, cs) := match cs with
    | '^' :: rest => (true, rest)
    | _ => (false, cs)
  let hyphens := cs.takeWhile (· == '-')
  let k : OpenClass := { negated }
  match hyphens, cs with
  | [], ']' :: rest => (k.add { accepts := .single ']'.toNat }, rest)
  | hyphens, cs =>
    (hyphens.foldl (fun k c => k.add { accepts := .single c.toNat }) k, cs.dropWhile (· == '-'))

/-- Reads a class from behind its `[`. The enclosing classes that are still open are on the
stack, innermost first. -/
def classBody? (flags : Flags) :
    Nat → OpenClass → List OpenClass → List Char → Option (ClassPart × List Char)
  | 0, _, _, _ => none
  | _ + 1, _, _, [] => none
  | fuel + 1, k, stack, ']' :: rest =>
    let part := k.finish flags
    match stack with
    | [] => some (part, rest)
    | outer :: stack => classBody? flags fuel (outer.add part) stack rest
  | fuel + 1, k, stack, '[' :: rest =>
    let named := match rest with
      | ':' :: name => namedClassItem? flags name
      | _ => none
    match named with
    | some (accepts, rest) => classBody? flags fuel (k.add { accepts }) stack rest
    | none =>
      let (inner, rest) := openClass rest
      classBody? flags fuel inner (k :: stack) rest
  | fuel + 1, k, stack, '&' :: '&' :: rest =>
    classBody? flags fuel (k.operate flags .intersection) stack rest
  | fuel + 1, k, stack, '-' :: '-' :: rest =>
    classBody? flags fuel (k.operate flags .difference) stack rest
  | fuel + 1, k, stack, '~' :: '~' :: rest =>
    classBody? flags fuel (k.operate flags .symmetricDifference) stack rest
  | fuel + 1, k, stack, cs =>
    match classRange? cs with
    | some (accepts, rest) => classBody? flags fuel (k.add { accepts }) stack rest
    | none => none

def class? (flags : Flags) (cs : List Char) : Option (ClassPart × List Char) :=
  let (k, rest) := openClass cs
  classBody? flags (cs.length + 1) k [] rest

/-! ### Repetition counts -/

/-- A decimal number of 32 bits, with white space allowed around it. -/
def count? (cs : List Char) : Option (Nat × List Char) :=
  let cs := cs.dropWhile Text.isSpace
  let digits := cs.takeWhile Char.isDigit
  let n := digits.foldl (fun n d => 10 * n + (d.toNat - '0'.toNat)) 0
  if digits.isEmpty || 0x100000000 ≤ n then none
  else some (n, (cs.dropWhile Char.isDigit).dropWhile Text.isSpace)

/-- Reads what follows the opening brace of a counted repetition. -/
def bounds? (cs : List Char) : Option (Bounds × List Char) := do
  let (least, rest) ← count? cs
  match rest with
  | '\x7d' :: rest => return (⟨least, some least⟩, rest)
  | ',' :: '\x7d' :: rest => return (⟨least, none⟩, rest)
  | ',' :: rest =>
    match ← count? rest with
    | (most, '\x7d' :: rest) => if least ≤ most then return (⟨least, some most⟩, rest) else none
    | _ => none
  | _ => none

/-- A repetition operator, and whether it is greedy: a question mark makes it lazy. -/
def repetition? : List Char → Option (Bounds × Bool × List Char)
  | '*' :: rest => some (⟨0, none⟩, greed rest)
  | '+' :: rest => some (⟨1, none⟩, greed rest)
  | '?' :: rest => some (⟨0, some 1⟩, greed rest)
  | '\x7b' :: rest => (bounds? rest).map fun (b, rest) => (b, greed rest)
  | _ => none
where
  greed : List Char → Bool × List Char
    | '?' :: rest => (false, rest)
    | cs => (true, cs)

/-! ### Groups -/

/-- What an opening parenthesis starts: a group that captures and may have a name, a group that
does not capture, or flags alone. -/
inductive Opening where
  | capture (name : Option String)
  | group (flags : Flags)
  | flags (flags : Flags)

def isNameStart (c : Char) : Bool := c == '_' || (Text.isWord c && !Text.isDigit c)

def isNameChar (c : Char) : Bool := Text.isWord c || c == '.' || c == '[' || c == ']'

def groupName? (cs : List Char) : Option (String × List Char) :=
  match cs.takeWhile (· != '>'), cs.dropWhile (· != '>') with
  | first :: others, _ :: rest =>
    if isNameStart first && others.all isNameChar then some (String.ofList (first :: others), rest)
    else none
  | _, _ => none

/-- Each flag may be named once, and the minus sign must have a flag behind it. -/
def flagLetters? (flags : Flags) (on : Bool) (seen : List Char) :
    List Char → Option (Flags × Char × List Char)
  | [] => none
  | ':' :: rest => if seen.head? == some '-' then none else some (flags, ':', rest)
  | ')' :: rest =>
    if seen.isEmpty || seen.head? == some '-' then none else some (flags, ')', rest)
  | c :: rest =>
    if seen.contains c then none
    else match c with
      | '-' => flagLetters? flags false (c :: seen) rest
      | 'i' => flagLetters? { flags with ignoreCase := on } on (c :: seen) rest
      | 'm' => flagLetters? { flags with multiLine := on } on (c :: seen) rest
      | 's' => flagLetters? { flags with dotAll := on } on (c :: seen) rest
      | 'U' => flagLetters? { flags with swapGreed := on } on (c :: seen) rest
      | 'u' => if on then flagLetters? flags on (c :: seen) rest else none
      | _ => none

/-- Reads what follows an opening parenthesis. -/
def opening? (flags : Flags) : List Char → Option (Opening × List Char)
  | '?' :: 'P' :: '<' :: rest => named rest
  | '?' :: '<' :: rest => named rest
  | '?' :: rest =>
    (flagLetters? flags true [] rest).map fun (inner, stop, rest) =>
      (if stop == ':' then .group inner else .flags inner, rest)
  | rest => some (.capture none, rest)
where
  named (cs : List Char) : Option (Opening × List Char) :=
    (groupName? cs).map fun (name, rest) => (.capture (some name), rest)

/-! ### Expressions -/

/-- An expression, and how deep its text nests: a group, a repetition, a choice, a sequence of
several items and a class in brackets are a level each. -/
structure Part where
  regex : Regex
  depth : Nat := 0

/-- A group that is still open: its earlier alternatives and the items of the current one, both
with the last one first. An item is none where flags stand. -/
structure Frame where
  flags : Flags
  captures : Bool := false
  choices : List Part := []
  items : List (Option Part) := []

namespace Frame

def push (f : Frame) (p : Part) : Frame := { f with items := some p :: f.items }

/-- The current alternative. A single item stands for itself. -/
def sequence (f : Frame) : Part :=
  let parts := f.items.reverse.filterMap id
  let depth := (parts.map (·.depth)).foldl max 0
  ⟨inSequence (parts.map (·.regex)), if f.items.length < 2 then depth else depth + 1⟩

def finish (f : Frame) : Part :=
  match f.choices with
  | [] => f.sequence
  | choices =>
    let parts := (f.sequence :: choices).reverse
    ⟨inChoice (parts.map (·.regex)), (parts.map (·.depth)).foldl max 0 + 1⟩

/-- The whole group. -/
def close (f : Frame) : Part :=
  let p := f.finish
  ⟨if f.captures then group p.regex else p.regex, p.depth + 1⟩

def repeatLast? (f : Frame) (bounds : Bounds) (greedy : Bool) : Option Frame :=
  match f.items with
  | some p :: items =>
    let r := repeatWithin bounds (greedy != f.flags.swapGreed) p.regex
    some { f with items := some ⟨r, p.depth + 1⟩ :: items }
  | _ => none

end Frame

/-- Reads an expression with the innermost open group, the groups around it and the names that
groups have taken. -/
def expression? : Nat → Frame → List Frame → List String → List Char → Option Part
  | 0, _, _, _, _ => none
  | _ + 1, f, stack, _, [] => if stack.isEmpty then some f.finish else none
  | fuel + 1, f, stack, names, cs@(c :: rest) =>
    match c with
    | '(' =>
      match opening? f.flags rest with
      | some (.flags flags, rest) =>
        expression? fuel { f with flags, items := none :: f.items } stack names rest
      | some (.group flags, rest) => expression? fuel { flags } (f :: stack) names rest
      | some (.capture name, rest) =>
        if name.any names.contains then none
        else
          expression? fuel { flags := f.flags, captures := true } (f :: stack)
            (name.toList ++ names) rest
      | none => none
    | ')' =>
      match stack with
      | outer :: stack => expression? fuel (outer.push f.close) stack names rest
      | [] => none
    | '|' =>
      expression? fuel { f with choices := f.sequence :: f.choices, items := [] } stack names rest
    | '[' =>
      match class? f.flags rest with
      | some (part, rest) =>
        expression? fuel (f.push ⟨ofSet part.accepts, part.depth⟩) stack names rest
      | none => none
    | '\\' =>
      match escape? rest with
      | some (.literal c, rest) =>
        expression? fuel (f.push { regex := f.flags.char c }) stack names rest
      | some (.set accepts, rest) =>
        expression? fuel (f.push { regex := ofSet accepts }) stack names rest
      | some (.anchor a, rest) => expression? fuel (f.push { regex := anchor a }) stack names rest
      | none => none
    | '*' | '+' | '?' | '\x7b' =>
      match repetition? cs with
      | some (bounds, greedy, rest) =>
        match f.repeatLast? bounds greedy with
        | some f => expression? fuel f stack names rest
        | none => none
      | none => none
    | '^' =>
      let a := if f.flags.multiLine then Anchor.lineStart else Anchor.textStart
      expression? fuel (f.push { regex := anchor a }) stack names rest
    | '$' =>
      let a := if f.flags.multiLine then Anchor.lineEnd else Anchor.textEnd
      expression? fuel (f.push { regex := anchor a }) stack names rest
    | '.' =>
      let accepts := if f.flags.dotAll then CodePoints.all else (CodePoints.single 0x0a).compl
      expression? fuel (f.push { regex := ofSet accepts }) stack names rest
    | c => expression? fuel (f.push { regex := f.flags.char c }) stack names rest

def maxDepth : Nat := 250

/-- The expression that the text is, if it is one and does not nest too deeply. -/
def parse? (ignoreCase : Bool) (source : String) : Option Regex :=
  let cs := source.toList
  ((expression? (cs.length + 1) { flags := { ignoreCase } } [] [] cs).filter
    (·.depth ≤ maxDepth)).map (·.regex)

end EventFilter.Regex
