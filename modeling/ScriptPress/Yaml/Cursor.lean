/-!
# A place in a YAML text

A cursor is the text that is still to be read and the mark of where it starts. Reading moves the
mark on by one column for each character, and to the start of the next line for each line break.
-/
namespace ScriptPress.Yaml

/-- A place in a text: its number of characters from the start, its line and its column, all
counted from zero. -/
structure Mark where
  index : Nat
  line : Nat
  column : Nat
  deriving DecidableEq, Repr

def Mark.zero : Mark := ⟨0, 0, 0⟩

/-- The words that tell a reader the place, counted from one; nothing is said of the start. -/
def Mark.at (m : Mark) : String :=
  if m.line = 0 ∧ m.column = 0 then ""
  else " at line " ++ toString (m.line + 1) ++ " column " ++ toString (m.column + 1)

/-! ### Character classes -/

def isBlank (c : Char) : Bool := c == ' ' || c == '\t'

/-- The characters that end a line: CR, LF, NEL, LINE SEPARATOR and PARAGRAPH SEPARATOR. -/
def isBreak (c : Char) : Bool :=
  c == '\r' || c == '\n' || c == '\u0085' || c == '\u2028' || c == '\u2029'

def isNameChar (c : Char) : Bool := c.isAlphanum || c == '-' || c == '_'

def isHexDigit (c : Char) : Bool :=
  c.isDigit || ('a' ≤ c && c ≤ 'f') || ('A' ≤ c && c ≤ 'F')

def hexValue (c : Char) : Nat :=
  if c.isDigit then c.toNat - '0'.toNat
  else if 'a' ≤ c then c.toNat - 'a'.toNat + 10
  else c.toNat - 'A'.toNat + 10

def isAllowed (c : Char) : Bool :=
  let n := c.toNat
  n == 0x09 || n == 0x0A || n == 0x0D || (0x20 ≤ n && n ≤ 0x7E) || n == 0x85 ||
  (0xA0 ≤ n && n ≤ 0xD7FF) || (0xE000 ≤ n && n ≤ 0xFFFD) || 0x10000 ≤ n

/-! ### Cursors -/

structure Cursor where
  rest : List Char
  mark : Mark
  deriving DecidableEq, Repr

namespace Cursor

def start (s : List Char) : Cursor := ⟨s, Mark.zero⟩

def head? (c : Cursor) : Option Char := c.rest.head?

def sees (c : Cursor) (x : Char) : Bool := c.rest.head? == some x

def seesAt (c : Cursor) (i : Nat) (p : Char → Bool) : Bool := (c.rest[i]?).any p

def blankAt (c : Cursor) (i : Nat) : Bool :=
  (c.rest[i]?).all fun x => isBlank x || isBreak x

def atLineEnd (c : Cursor) : Bool := c.rest.head?.all isBreak

def step (c : Cursor) : Cursor :=
  ⟨c.rest.tail, ⟨c.mark.index + 1, c.mark.line, c.mark.column + 1⟩⟩

def steps (c : Cursor) (n : Nat) : Cursor :=
  ⟨c.rest.drop n, ⟨c.mark.index + n, c.mark.line, c.mark.column + n⟩⟩

/-- Past a run of a class of characters, within a line. -/
def skipWhile (c : Cursor) (p : Char → Bool) : Cursor :=
  c.steps (c.rest.takeWhile p).length

/-- Past the next line break; CR and LF together are one. The break is returned as it is kept in
a scalar: LF for all but the two separators. -/
def lineBreak (c : Cursor) : List Char × Cursor :=
  match c.rest with
  | '\r' :: '\n' :: rest => (['\n'], ⟨rest, ⟨c.mark.index + 2, c.mark.line + 1, 0⟩⟩)
  | x :: rest =>
    if x = '\u2028' ∨ x = '\u2029' then ([x], ⟨rest, ⟨c.mark.index + 1, c.mark.line + 1, 0⟩⟩)
    else if isBreak x then (['\n'], ⟨rest, ⟨c.mark.index + 1, c.mark.line + 1, 0⟩⟩)
    else ([], c)
  | [] => ([], c)

/-- Whether a line of three equal signs that separates documents starts here. -/
def atDocumentSign (c : Cursor) (sign : Char) : Bool :=
  c.mark.column == 0 &&
    (match c.rest with
      | a :: b :: d :: _ => a == sign && b == sign && d == sign
      | _ => false) &&
    c.blankAt 3

def atDocumentSeparator (c : Cursor) : Bool := c.atDocumentSign '-' || c.atDocumentSign '.'

end Cursor
end ScriptPress.Yaml
