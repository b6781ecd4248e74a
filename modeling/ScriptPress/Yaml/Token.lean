import ScriptPress.Yaml.Property
import ScriptPress.Yaml.Scalar

/-!
# The tokens of a YAML text

Indentation and the signs of a YAML text are turned into a flat list of tokens, in which block
collections have explicit starts and ends. A key of one line is recognised only at its colon, so a
token that may turn out to start a key waits until that is settled; a text that goes wrong has lost
the tokens that were still waiting.
-/
namespace ScriptPress.Yaml

inductive Token where
  | streamEnd
  | directive (d : Directive)
  | documentStart
  | documentEnd
  | blockSequenceStart
  | blockMappingStart
  | blockEnd
  | flowSequenceStart
  | flowSequenceEnd
  | flowMappingStart
  | flowMappingEnd
  | blockEntry
  | flowEntry
  | key
  | value
  | alias (name : List Char)
  | anchor (name : List Char)
  | tag (t : Tag)
  | scalar (text : List Char) (style : Style)
  deriving DecidableEq, Repr

structure Placed where
  token : Token
  start : Mark
  stop : Mark
  deriving DecidableEq, Repr

/-- A token that may start a key: the number of the token, where it starts, and whether it must be a
key because nothing else may stand at its column. -/
structure Candidate where
  number : Nat
  mark : Mark
  required : Bool
  deriving DecidableEq, Repr

structure Scanner where
  cursor : Cursor
  /-- The tokens that wait, the first of them having the number `first`. -/
  waiting : List Placed
  first : Nat
  /-- For each open flow collection, the innermost first, and for the block level, the token that
  may start a key there. -/
  candidates : List (Option Candidate)
  /-- The column of the innermost block collection, `-1` outside of all. -/
  indent : Int
  /-- The columns of the block collections around it. -/
  outer : List Int
  /-- Whether a key may start here. -/
  keyAllowed : Bool
  ended : Bool
  deriving Repr

namespace Scanner

def start (text : List Char) : Scanner :=
  ⟨Cursor.start text, [], 0, [none], -1, [], true, false⟩

def flow (s : Scanner) : Bool := 1 < s.candidates.length

/-- The column from which on the lines of a scalar belong to the innermost block collection. -/
def base (s : Scanner) : Nat := (s.indent + 1).toNat

def mark (s : Scanner) : Mark := s.cursor.mark

def nextNumber (s : Scanner) : Nat := s.first + s.waiting.length

def push (s : Scanner) (token : Token) (start stop : Mark) : Scanner :=
  { s with waiting := s.waiting ++ [⟨token, start, stop⟩] }

def insertAt (s : Scanner) (number : Nat) (token : Token) (mark : Mark) : Scanner :=
  let i := number - s.first
  { s with waiting := s.waiting.take i ++ ⟨token, mark, mark⟩ :: s.waiting.drop i }

def sign (s : Scanner) (token : Token) (size : Nat) : Scanner :=
  let after := s.cursor.steps size
  { s.push token s.mark after.mark with cursor := after }

/-! ### Keys -/

/-- A candidate must be on the line of the scanner and at most 1024 characters back. -/
def Candidate.isStale (k : Candidate) (m : Mark) : Bool :=
  k.mark.line < m.line || k.mark.index + 1024 < m.index

def giveUp (s : Scanner) (k : Candidate) : Except Fault Unit :=
  if k.required then .error (.during .simpleKey k.mark .noColonAfterKey s.mark) else .ok ()

def fresh (s : Scanner) : List (Option Candidate) → Except Fault (List (Option Candidate))
  | [] => .ok []
  | none :: rest => (none :: ·) <$> fresh s rest
  | some k :: rest =>
    -- the outermost candidate is looked at first
    match fresh s rest with
    | .error fault => .error fault
    | .ok rest =>
      if Candidate.isStale k s.mark then
        match s.giveUp k with
        | .error fault => .error fault
        | .ok () => .ok (none :: rest)
      else .ok (some k :: rest)

def dropStale (s : Scanner) : Except Fault Scanner :=
  (fresh s s.candidates).map fun candidates => { s with candidates := candidates }

def dropKey (s : Scanner) : Except Fault Scanner :=
  match s.candidates with
  | some k :: rest => (s.giveUp k).map fun _ => { s with candidates := none :: rest }
  | _ => .ok s

def saveKey (s : Scanner) : Except Fault Scanner :=
  if !s.keyAllowed then .ok s
  else
    let k : Candidate :=
      ⟨s.nextNumber, s.mark, !s.flow && decide (s.indent = (s.mark.column : Int))⟩
    s.dropKey.map fun s => { s with candidates := some k :: s.candidates.tail }

/-! ### Indentation -/

/-- Opens a block collection at a column, unless one is open there; its token goes in front of the
one with the given number. -/
def roll (s : Scanner) (column number : Nat) (token : Token) (mark : Mark) : Scanner :=
  if s.flow || (column : Int) ≤ s.indent then s
  else
    { s.insertAt number token mark with
      indent := (column : Int), outer := s.indent :: s.outer }

/-- Closes the block collections to the right of a column, given those that are open around the
innermost one. -/
def unrollFrom (column : Int) : List Int → Scanner → Scanner
  | [], s => s
  | outer :: rest, s =>
    if s.indent ≤ column then s
    else
      unrollFrom column rest
        { s.push .blockEnd s.mark s.mark with indent := outer, outer := rest }

def unroll (s : Scanner) (column : Int) : Scanner :=
  if s.flow then s else unrollFrom column s.outer s

/-! ### Blanks and comments -/

/-- Passes over blanks, comments and line breaks. A tab may not indent where a key may start. -/
def toNextToken : Nat → Scanner → Scanner
  | 0, s => s
  | n + 1, s =>
    let c := s.cursor
    let c := if c.mark.index = 0 ∧ c.sees '\ufeff' then c.step else c
    let c := c.skipWhile fun x => x == ' ' || ((s.flow || !s.keyAllowed) && x == '\t')
    let c := if c.sees '#' then c.skipWhile (!isBreak ·) else c
    if c.rest.head?.any isBreak then
      toNextToken n { s with cursor := c.lineBreak.2, keyAllowed := s.keyAllowed || !s.flow }
    else { s with cursor := c }

/-! ### Tokens -/

def fail {α : Type} (s : Scanner) (problem : Problem) : Except Fault α :=
  .error (.plain problem s.mark)

/-- The end of the text closes everything, as if on a line of its own. -/
def fetchEnd (s : Scanner) : Except Fault Scanner :=
  let m := s.mark
  let m := if m.column = 0 then m else ⟨m.index, m.line + 1, 0⟩
  (Scanner.unroll { s with cursor := ⟨s.cursor.rest, m⟩ } (-1)).dropKey.map fun s =>
    { s.push .streamEnd s.mark s.mark with keyAllowed := false, ended := true }

def fetchDirective (s : Scanner) : Except Fault Scanner := do
  let s ← (s.unroll (-1)).dropKey
  let (d, stop, after) ← directive s.cursor
  return { s.push (.directive d) s.mark stop with cursor := after, keyAllowed := false }

def fetchDocumentSign (s : Scanner) (token : Token) : Except Fault Scanner := do
  let s ← (s.unroll (-1)).dropKey
  return { s.sign token 3 with keyAllowed := false }

def fetchFlowStart (s : Scanner) (token : Token) : Except Fault Scanner := do
  let s ← s.saveKey
  return { s.sign token 1 with candidates := none :: s.candidates, keyAllowed := true }

def fetchFlowEnd (s : Scanner) (token : Token) : Except Fault Scanner := do
  let s ← s.dropKey
  let candidates := if s.flow then s.candidates.tail else s.candidates
  return { s.sign token 1 with candidates := candidates, keyAllowed := false }

def fetchFlowEntry (s : Scanner) : Except Fault Scanner := do
  let s ← s.dropKey
  return { s.sign .flowEntry 1 with keyAllowed := true }

def fetchBlockEntry (s : Scanner) : Except Fault Scanner := do
  if !s.flow && !s.keyAllowed then s.fail .entryNotAllowed
  let s := s.roll s.mark.column s.nextNumber .blockSequenceStart s.mark
  let s ← s.dropKey
  return { s.sign .blockEntry 1 with keyAllowed := true }

def fetchKey (s : Scanner) : Except Fault Scanner := do
  if !s.flow && !s.keyAllowed then s.fail .keyNotAllowed
  let s := s.roll s.mark.column s.nextNumber .blockMappingStart s.mark
  let s ← s.dropKey
  return { s.sign .key 1 with keyAllowed := !s.flow }

def fetchValue (s : Scanner) : Except Fault Scanner := do
  match s.candidates with
  | some k :: rest =>
    let s := s.insertAt k.number .key k.mark
    let s := s.roll k.mark.column k.number .blockMappingStart k.mark
    return { s.sign .value 1 with candidates := none :: rest, keyAllowed := false }
  | _ =>
    if !s.flow && !s.keyAllowed then s.fail .valueNotAllowed
    let s := s.roll s.mark.column s.nextNumber .blockMappingStart s.mark
    return { s.sign .value 1 with keyAllowed := !s.flow }

def fetchName (s : Scanner) (reading : Reading) (token : List Char → Token) :
    Except Fault Scanner := do
  let s ← s.saveKey
  let (text, after) ← name reading s.cursor
  return { s.push (token text) s.mark after.mark with cursor := after, keyAllowed := false }

def fetchTag (s : Scanner) : Except Fault Scanner := do
  let s ← s.saveKey
  let (t, after) ← tag s.flow s.cursor
  return { s.push (.tag t) s.mark after.mark with cursor := after, keyAllowed := false }

def fetchBlockScalar (s : Scanner) (style : Style) : Except Fault Scanner := do
  let s ← s.dropKey
  let scalar ← block (style == .folded) s.base s.cursor
  return { s.push (.scalar scalar.text style) s.mark scalar.stop with
    cursor := scalar.next, keyAllowed := true }

def fetchQuoted (s : Scanner) (style : Style) : Except Fault Scanner := do
  let s ← s.saveKey
  let scalar ← quoted (style == .singleQuoted) s.cursor
  return { s.push (.scalar scalar.text style) s.mark scalar.stop with
    cursor := scalar.next, keyAllowed := false }

def fetchPlain (s : Scanner) : Except Fault Scanner := do
  let s ← s.saveKey
  let scalar ← plain s.flow s.base s.cursor
  return { s.push (.scalar scalar.text .plain) s.mark scalar.stop with
    cursor := scalar.next, keyAllowed := scalar.broken }

def startsPlain (flow : Bool) (x : Char) (after : List Char) : Bool :=
  let blankNext := after.head?.all fun y => isBlank y || isBreak y
  if x == '-' then !after.head?.any isBlank
  else if x == '?' || x == ':' then !flow && !blankNext
  else !(isBlank x || isBreak x || isFlowSign x || x == '#' || x == '&' || x == '*' || x == '!' ||
    x == '|' || x == '>' || x == '\'' || x == '"' || x == '%' || x == '@' || x == '\x60')

def fetch (s : Scanner) : Except Fault Scanner := do
  let s ← (s.toNextToken (s.cursor.rest.length + 1)).dropStale
  let s := s.unroll (s.mark.column : Int)
  let c := s.cursor
  match c.rest with
  | [] => s.fetchEnd
  | x :: after =>
    if c.mark.column = 0 ∧ x = '%' then s.fetchDirective
    else if c.atDocumentSign '-' then s.fetchDocumentSign .documentStart
    else if c.atDocumentSign '.' then s.fetchDocumentSign .documentEnd
    else if x = '[' then s.fetchFlowStart .flowSequenceStart
    else if x = '\x7b' then s.fetchFlowStart .flowMappingStart
    else if x = ']' then s.fetchFlowEnd .flowSequenceEnd
    else if x = '\x7d' then s.fetchFlowEnd .flowMappingEnd
    else if x = ',' then s.fetchFlowEntry
    else if x = '-' ∧ c.blankAt 1 then s.fetchBlockEntry
    else if x = '?' ∧ (s.flow ∨ c.blankAt 1) then s.fetchKey
    else if x = ':' ∧ (s.flow ∨ c.blankAt 1) then s.fetchValue
    else if x = '*' then s.fetchName .alias .alias
    else if x = '&' then s.fetchName .anchor .anchor
    else if x = '!' then s.fetchTag
    else if x = '|' ∧ !s.flow then s.fetchBlockScalar .literal
    else if x = '>' ∧ !s.flow then s.fetchBlockScalar .folded
    else if x = '\'' then s.fetchQuoted .singleQuoted
    else if x = '"' then s.fetchQuoted .doubleQuoted
    else if startsPlain s.flow x after then s.fetchPlain
    else .error (.during .nextToken s.mark .noTokenStartsSo s.mark)

/-- Whether the first waiting token may still turn out to start a key. -/
def firstIsOpen (s : Scanner) : Bool :=
  s.candidates.any fun k => k.any fun k => k.number == s.first

def run : Nat → Scanner → List Placed × Option Fault
  | 0, _ => ([], none)
  | n + 1, s =>
    match s.waiting with
    | [] =>
      if s.ended then ([], none)
      else
        match s.fetch with
        | .error fault => ([], some fault)
        | .ok s => run n s
    | p :: waiting =>
      match s.dropStale with
      | .error fault => ([], some fault)
      | .ok s =>
        if s.firstIsOpen then
          match s.fetch with
          | .error fault => ([], some fault)
          | .ok s => run n s
        else
          let (tokens, fault) := run n { s with waiting := waiting, first := s.first + 1 }
          (p :: tokens, fault)

end Scanner

def firstForbidden? (offset : Nat) : List Char → Option Nat
  | [] => none
  | c :: s => if isAllowed c then firstForbidden? (offset + c.utf8Size) s else some offset

/-- The tokens of a text, and the fault that stops them if there is one. -/
def tokens (text : List Char) : List Placed × Option Fault :=
  match firstForbidden? 0 text with
  | some offset => ([], some ⟨.controlCharacter, Mark.zero, offset, none⟩)
  | none => Scanner.run (4 * text.length + 8) (Scanner.start text)

end ScriptPress.Yaml
