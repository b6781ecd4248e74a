import ScriptPress.Version.Release

/-!
# Version ranges

The grammar of package version ranges: up to 32 comparators with commas between, or a single
wildcard. A comparator is an optional operator and a release number that may end early or in
wildcards. Only the ASCII space is skipped, and only after an operator, a comma or a comparator.
-/
namespace ScriptPress.Version

def maxComparators : Nat := 32

def isSpace (c : Char) : Bool := c == ' '

def isWildcard (c : Char) : Bool := c == '*' || c == 'x' || c == 'X'

def skipSpaces (s : List Char) : List Char := s.dropWhile isSpace

def skipOperator : List Char → List Char
  | '>' :: '=' :: s => s
  | '<' :: '=' :: s => s
  | '=' :: s | '>' :: s | '<' :: s | '~' :: s | '^' :: s => s
  | s => s

inductive Place where
  | absent
  | any
  | exact
  deriving DecidableEq, Repr

/-- Takes a dot and a number or wildcard off the front, if a dot stands there. -/
def place? (s : List Char) : Option (Place × List Char) :=
  match mark? '.' s with
  | none => some (.absent, s)
  | some [] => none
  | some (c :: rest) =>
    if isWildcard c then some (.any, rest)
    else (number? (c :: rest)).map fun rest => (.exact, rest)

/-- Takes a comparator and the spaces after it off the front. After a wildcard no number may
follow, and only a comparator of three numbers has suffixes. -/
def comparator? (s : List Char) : Option (List Char) := do
  let s ← number? (skipSpaces (skipOperator s))
  let (minor, s) ← place? s
  let (patch, s) ← place? s
  match minor, patch with
  | .any, .exact => none
  | _, .exact => (suffixes? s).map skipSpaces
  | _, _ => some (skipSpaces s)

def isComparators : Nat → List Char → Bool
  | 0, _ => false
  | n + 1, s =>
    match comparator? s with
    | none => false
    | some [] => true
    | some (c :: rest) => c == ',' && isComparators n (skipSpaces rest)

def isRange (s : List Char) : Bool :=
  match skipSpaces s with
  | [] => false
  | c :: rest =>
    if isWildcard c then (skipSpaces rest).isEmpty
    else isComparators maxComparators (c :: rest)

end ScriptPress.Version
