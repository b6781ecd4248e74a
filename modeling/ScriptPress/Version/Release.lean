/-!
# Release numbers

The grammar of Semantic Versioning 2.0: three numbers with dots between, an optional pre-release
after a hyphen, an optional build after a plus sign. A number has no leading zero and fits into 64
bits. Each reader takes what it recognises off the front and returns the rest.
-/
namespace ScriptPress.Version

def numberBound : Nat := UInt64.size

def digitsValue (s : List Char) : Nat :=
  s.foldl (fun n c => 10 * n + (c.toNat - '0'.toNat)) 0

/-- Whether a run of digits is a number: not empty, without leading zero, within the bound. -/
def isNumber (s : List Char) : Bool :=
  match s with
  | [] => false
  | ['0'] => true
  | '0' :: _ => false
  | s => decide (digitsValue s < numberBound)

/-- Takes a number off the front; all the digits that stand there belong to it. -/
def number? (s : List Char) : Option (List Char) :=
  if isNumber (s.takeWhile Char.isDigit) then some (s.dropWhile Char.isDigit) else none

def mark? (c : Char) : List Char → Option (List Char)
  | [] => none
  | d :: s => if d = c then some s else none

/-! ### Suffixes -/

def isIdentChar (c : Char) : Bool := c.isAlphanum || c == '-'

def isBuildIdent (s : List Char) : Bool := !s.isEmpty

def isPreIdent (s : List Char) : Bool :=
  match s with
  | [] => false
  | '0' :: c :: s => !(c :: s).all Char.isDigit
  | _ => true

def isIdents (ok : List Char → Bool) (s : List Char) : Bool :=
  go [] s
where
  /-- `ident` is the identifier under way, its last character first. -/
  go (ident : List Char) : List Char → Bool
    | [] => ok ident.reverse
    | c :: s => if c == '.' then ok ident.reverse && go [] s else go (c :: ident) s

/-- Takes the longest run of identifier characters and dots off the front, if it is a sequence of
identifiers. -/
def idents? (ok : List Char → Bool) (s : List Char) : Option (List Char) :=
  let inside := fun c => isIdentChar c || c == '.'
  if isIdents ok (s.takeWhile inside) then some (s.dropWhile inside) else none

def suffix? (sign : Char) (ok : List Char → Bool) (s : List Char) : Option (List Char) :=
  match mark? sign s with
  | none => some s
  | some rest => idents? ok rest

def suffixes? (s : List Char) : Option (List Char) :=
  (suffix? '-' isPreIdent s).bind (suffix? '+' isBuildIdent)

/-! ### Releases -/

def core? (s : List Char) : Option (List Char) := do
  let s ← number? s
  let s ← mark? '.' s
  let s ← number? s
  let s ← mark? '.' s
  number? s

def isRelease (s : List Char) : Bool :=
  match (core? s).bind suffixes? with
  | some [] => true
  | _ => false

end ScriptPress.Version
