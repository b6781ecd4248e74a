import ScriptPress.Yaml.Fault

/-!
# Scalars of a YAML text

The five ways to write a scalar. Plain and quoted scalars may go on over several lines: the blanks
and line breaks between two words are folded. Block scalars keep their lines, moved out by their
indentation, and fold them or not.
-/
namespace ScriptPress.Yaml

inductive Style where
  | plain
  | singleQuoted
  | doubleQuoted
  | literal
  | folded
  deriving DecidableEq, Repr

/-- A scalar that was read: its text, where it ends, where reading goes on, and whether line breaks
after it were passed over. -/
structure Scalar where
  text : List Char
  stop : Mark
  next : Cursor
  broken : Bool
  deriving Repr

/-! ### Between two words -/

/-- What stands between two words of a scalar: blanks within a line, or a first line break and the
further ones. -/
structure Gap where
  blanks : List Char
  first : List Char
  further : List Char
  broken : Bool
  deriving DecidableEq, Repr

namespace Gap

def none : Gap := ⟨[], [], [], false⟩

def escaped : Gap := ⟨[], [], [], true⟩

/-- What a gap becomes: blanks stay; a line break alone becomes a space, and goes away before
further ones; a separator character stays. -/
def folded (g : Gap) : List Char :=
  if g.broken then
    if g.first.head? = some '\n' then (if g.further.isEmpty then [' '] else g.further)
    else g.first ++ g.further
  else g.blanks

/-- Reads blanks and line breaks. At the start of a line a tab may not stand left of the column
`least`; the mark of such a tab is the error. -/
def read (least : Nat) (g : Gap) : Nat → Cursor → Except Mark (Gap × Cursor)
  | 0, c => .ok (g, c)
  | n + 1, c =>
    match c.rest with
    | [] => .ok (g, c)
    | x :: _ =>
      if isBlank x then
        if g.broken && c.mark.column < least && x == '\t' then .error c.mark
        else read least (if g.broken then g else { g with blanks := g.blanks ++ [x] }) n c.step
      else if isBreak x then
        let (kept, c) := c.lineBreak
        read least
          (if g.broken then { g with further := g.further ++ kept } else ⟨[], kept, [], true⟩) n c
      else .ok (g, c)

def readAll (least : Nat) (g : Gap) (c : Cursor) : Except Mark (Gap × Cursor) :=
  g.read least (c.rest.takeWhile fun x => isBlank x || isBreak x).length c

end Gap

/-! ### Plain scalars -/

def isFlowSign (c : Char) : Bool :=
  c == ',' || c == '[' || c == ']' || c == '\x7b' || c == '\x7d'

/-- The length of a plain word, and whether it ends at a colon that may not stand there. A colon
before a blank ends a word; so does, in a flow collection, a sign of it. -/
def plainWord (flow : Bool) : List Char → Nat × Bool
  | [] => (0, false)
  | x :: s =>
    if isBlank x || isBreak x then (0, false)
    else if flow && x == ':' && s.head?.any (fun y => isFlowSign y || y == '?') then (0, true)
    else if (x == ':' && s.head?.all fun y => isBlank y || isBreak y) || (flow && isFlowSign x) then
      (0, false)
    else
      let word := plainWord flow s
      (word.1 + 1, word.2)

def plainFrom (flow : Bool) (least : Nat) (began : Mark) :
    Nat → List (List Char) → Gap → Mark → Cursor → Except Fault Scalar
  | 0, pieces, gap, stop, c => .ok ⟨pieces.reverse.flatten, stop, c, gap.broken⟩
  | n + 1, pieces, gap, stop, c =>
    if c.atDocumentSeparator || c.sees '#' then
      .ok ⟨pieces.reverse.flatten, stop, c, gap.broken⟩
    else
      let word := plainWord flow c.rest
      let after := c.steps word.1
      if word.2 then .error (.during .plainScalar began .colonInPlain after.mark)
      else if word.1 = 0 then .ok ⟨pieces.reverse.flatten, stop, c, gap.broken⟩
      else
        let pieces := c.rest.take word.1 :: gap.folded :: pieces
        match Gap.readAll least Gap.none after with
        | .error mark => .error (.during .plainScalar began .tabBeforePlain mark)
        | .ok (gap, c) =>
          if !flow && c.mark.column < least then
            .ok ⟨pieces.reverse.flatten, after.mark, c, gap.broken⟩
          else plainFrom flow least began n pieces gap after.mark c

/-- Reads a plain scalar. In a block collection its further lines start at column `least` or to the
right of it. -/
def plain (flow : Bool) (least : Nat) (c : Cursor) : Except Fault Scalar :=
  plainFrom flow least c.mark (c.rest.length + 1) [] Gap.none c.mark c

/-! ### Quoted scalars -/

def shortEscape? (c : Char) : Option Char :=
  match c with
  | '0' => some '\x00'
  | 'a' => some '\x07'
  | 'b' => some '\x08'
  | 't' | '\t' => some '\t'
  | 'n' => some '\n'
  | 'v' => some '\x0b'
  | 'f' => some '\x0c'
  | 'r' => some '\r'
  | 'e' => some '\x1b'
  | ' ' => some ' '
  | '"' => some '"'
  | '/' => some '/'
  | '\\' => some '\\'
  | 'N' => some '\u0085'
  | '_' => some '\u00a0'
  | 'L' => some '\u2028'
  | 'P' => some '\u2029'
  | _ => none

def hexNumber (s : List Char) : Nat := s.foldl (fun n c => 16 * n + hexValue c) 0

inductive WordEnd where
  | gap
  | quote
  | escapedBreak
  | fault (problem : Problem)
  deriving DecidableEq, Repr

structure Word where
  text : List Char
  size : Nat
  ending : WordEnd
  deriving Repr

def Word.push (w : Word) (x : Char) (size : Nat) : Word := ⟨x :: w.text, size + w.size, w.ending⟩

def singleQuotedWord : List Char → Word
  | [] => ⟨[], 0, .gap⟩
  | '\'' :: '\'' :: s => (singleQuotedWord s).push '\'' 2
  | x :: s =>
    if x = '\'' then ⟨[], 0, .quote⟩
    else if isBlank x || isBreak x then ⟨[], 0, .gap⟩
    else (singleQuotedWord s).push x 1

/-- A character written by its number in front of a word. A surrogate or a number beyond Unicode is
no character. -/
def Word.numbered (w : Word) (digits : List Char) : Word :=
  let value := hexNumber digits
  if !digits.all isHexDigit then ⟨[], 2, .fault .noHexDigits⟩
  else if (0xD800 ≤ value && value ≤ 0xDFFF) || 0x10FFFF < value then
    ⟨[], 2, .fault .badCodePoint⟩
  else w.push (Char.ofNat value) (2 + digits.length)

/-- Reads a word between double quotes. The place of a fault is the backslash of an unknown escape
and the first digit of a bad number. -/
def doubleQuotedWord : List Char → Word
  | [] => ⟨[], 0, .gap⟩
  | '\\' :: e :: s =>
    if isBreak e then ⟨[], 0, .escapedBreak⟩
    else
      match shortEscape? e with
      | some c => (doubleQuotedWord s).push c 2
      | none =>
        if e = 'x' then
          match s with
          | a :: b :: s => (doubleQuotedWord s).numbered [a, b]
          | _ => ⟨[], 2, .fault .noHexDigits⟩
        else if e = 'u' then
          match s with
          | a :: b :: c :: d :: s => (doubleQuotedWord s).numbered [a, b, c, d]
          | _ => ⟨[], 2, .fault .noHexDigits⟩
        else if e = 'U' then
          match s with
          | a :: b :: c :: d :: a' :: b' :: c' :: d' :: s =>
            (doubleQuotedWord s).numbered [a, b, c, d, a', b', c', d']
          | _ => ⟨[], 2, .fault .noHexDigits⟩
        else ⟨[], 0, .fault .unknownEscape⟩
  | x :: s =>
    if isBlank x || isBreak x then ⟨[], 0, .gap⟩
    else if x = '"' then ⟨[], 0, .quote⟩
    else if x = '\\' then ⟨[], 0, .fault .unknownEscape⟩
    else (doubleQuotedWord s).push x 1

/-- Reads the words of a quoted scalar after the opening quote; `pieces` is what was read, the last
first. -/
def quotedFrom (single : Bool) (began : Mark) :
    Nat → List (List Char) → Cursor → Except Fault Scalar
  | 0, _, c => .error (.during .quotedScalar began .endInQuotes c.mark)
  | n + 1, pieces, c =>
    if c.atDocumentSeparator then
      .error (.during .quotedScalar began .documentSignInQuotes c.mark)
    else if c.rest.isEmpty then .error (.during .quotedScalar began .endInQuotes c.mark)
    else
      let word := if single then singleQuotedWord c.rest else doubleQuotedWord c.rest
      let after := c.steps word.size
      let go (gap : Gap) (c : Cursor) : Except Fault Scalar :=
        match Gap.readAll 0 gap c with
        | .error mark => .error (.during .quotedScalar began .tabBeforePlain mark)
        | .ok (gap, c) => quotedFrom single began n (gap.folded :: word.text :: pieces) c
      match word.ending with
      | .fault problem => .error (.during .escape began problem after.mark)
      | .quote => .ok ⟨(word.text :: pieces).reverse.flatten, after.step.mark, after.step, false⟩
      | .escapedBreak => go Gap.escaped after.step.lineBreak.2
      | .gap => go Gap.none after

def quoted (single : Bool) (c : Cursor) : Except Fault Scalar :=
  quotedFrom single c.mark (c.rest.length + 1) [] c.step

/-! ### Block scalars -/

inductive Chomping where
  | strip
  | clip
  | keep
  deriving DecidableEq, Repr

def chomping? (c : Cursor) : Option Chomping :=
  match c.head? with
  | some '+' => some .keep
  | some '-' => some .strip
  | _ => none

def indicator? (c : Cursor) : Option Nat :=
  match c.head? with
  | some x => if x.isDigit then some (x.toNat - '0'.toNat) else none
  | none => none

/-- The signs after the sign of a block scalar, in either order, each at most once. The mark of an
indentation of zero is the error. -/
def blockSigns (c : Cursor) : Except Mark (Chomping × Option Nat × Cursor) :=
  match chomping? c with
  | some ch =>
    match indicator? c.step with
    | some 0 => .error c.step.mark
    | some n => .ok (ch, some n, c.step.step)
    | none => .ok (ch, none, c.step)
  | none =>
    match indicator? c with
    | some 0 => .error c.mark
    | some n =>
      match chomping? c.step with
      | some ch => .ok (ch, some n, c.step.step)
      | none => .ok (.clip, some n, c.step)
    | none => .ok (.clip, none, c)

def insideIndent (indent column : Nat) : Bool := indent == 0 || column < indent

/-- Lines without text inside a block scalar: their breaks, where the last of them ends, the
greatest column reached. -/
structure Blanks where
  breaks : List Char
  stop : Mark
  widest : Nat
  next : Cursor
  deriving Repr

def blockBlanks (indent : Nat) : Nat → Blanks → Except Mark Blanks
  | 0, b => .ok b
  | n + 1, b =>
    let c := b.next
    let spaces := (c.rest.takeWhile (· == ' ')).length
    let eaten := if indent = 0 then spaces else min spaces (indent - c.mark.column)
    let c := c.steps eaten
    let widest := max b.widest c.mark.column
    if insideIndent indent c.mark.column && c.sees '\t' then .error c.mark
    else if c.rest.head?.any isBreak then
      let (kept, c) := c.lineBreak
      blockBlanks indent n ⟨b.breaks ++ kept, c.mark, widest, c⟩
    else .ok ⟨b.breaks, b.stop, widest, c⟩

def blanksFrom (indent : Nat) (c : Cursor) : Except Mark Blanks :=
  blockBlanks indent ((c.rest.takeWhile fun x => x == ' ' || isBreak x).length + 1)
    ⟨[], c.mark, 0, c⟩

/-- Reads the lines of a block scalar. `line` is the break after the line before, `blanks` what was
passed over since, and `blankBefore` whether the line before started with a blank. -/
def blockLines (fold : Bool) (indent : Nat) :
    Nat → List (List Char) → List Char → Bool → Blanks → Except Mark (List (List Char) × List Char × Blanks)
  | 0, pieces, line, _, blanks => .ok (pieces, line, blanks)
  | n + 1, pieces, line, blankBefore, blanks =>
    let c := blanks.next
    if c.mark.column ≠ indent || c.rest.isEmpty then .ok (pieces, line, blanks)
    else
      let blankHere := c.rest.head?.any isBlank
      let joint :=
        if fold && line.head? == some '\n' && !blankBefore && !blankHere then
          if blanks.breaks.isEmpty then [' '] else []
        else line
      let text := c.rest.takeWhile (!isBreak ·)
      let (line, c) := (c.steps text.length).lineBreak
      match blanksFrom indent c with
      | .error mark => .error mark
      | .ok after =>
        blockLines fold indent n (text :: blanks.breaks :: joint :: pieces) line blankHere after

def block (fold : Bool) (base : Nat) (c : Cursor) : Except Fault Scalar :=
  let began := c.mark
  match blockSigns c.step with
  | .error mark => .error (.during .blockScalar began .zeroIndentation mark)
  | .ok (chomping, indicator, c) =>
    let c := c.skipWhile isBlank
    let c := if c.sees '#' then c.skipWhile (!isBreak ·) else c
    if !c.atLineEnd then .error (.during .blockScalar began .noLineEnd c.mark)
    else
      let known := match indicator with
        | some n => (base - 1) + n
        | none => 0
      match blanksFrom known c.lineBreak.2 with
      | .error mark => .error (.during .blockScalar began .tabInIndentation mark)
      | .ok blanks =>
        let indent := if known = 0 then max (max blanks.widest base) 1 else known
        match blockLines fold indent (blanks.next.rest.length + 1) [] [] false blanks with
        | .error mark => .error (.during .blockScalar began .tabInIndentation mark)
        | .ok (pieces, line, blanks) =>
          let tail := match chomping with
            | .strip => []
            | .clip => line
            | .keep => line ++ blanks.breaks
          .ok ⟨pieces.reverse.flatten ++ tail, blanks.stop, blanks.next, false⟩

end ScriptPress.Yaml
