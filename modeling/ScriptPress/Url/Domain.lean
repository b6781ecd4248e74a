import ScriptPress.Text.Split
import ScriptPress.Unicode.Direction
import ScriptPress.Unicode.Exclusion
import ScriptPress.Unicode.Joining
import ScriptPress.Unicode.Replacement
import ScriptPress.Url.Punycode

/-!
# Domain names

The ASCII form of a host name after Unicode Technical Standard 46: characters are replaced or
dropped, the text is composed, and every label with characters beyond ASCII is written in Punycode.
A label that comes in Punycode has to be one that this form could have been made from. Neither the
length of a label nor its hyphens are looked at.
-/
namespace ScriptPress.Url

def isForbidden (c : Char) : Bool :=
  c.toNat ≤ 0x20 || c == '#' || c == '%' || c == '/' || c == ':' || c == '<' || c == '>' ||
    c == '?' || c == '@' || c == '[' || c == '\\' || c == ']' || c == '^' || c == '|' ||
    c.toNat == 0x7F

def isAscii (s : List Char) : Bool := s.all (·.toNat < 0x80)

/-- What stands for a character in a host name, if it may stand there at all. -/
def hostChars? (c : Char) : Option (List Char) :=
  if c.toNat < 0x80 then some [c.toLower]
  else if Unicode.isExcluded c then none
  else if Unicode.isDropped c then some []
  else some ((Unicode.replacement? c).getD [c])

def hostText? (s : List Char) : Option (List Char) :=
  match s.mapM hostChars? with
  | none => none
  | some pieces =>
    let text := pieces.flatten
    let text := if isAscii text then text else Unicode.normalized text
    if text.any isForbidden then none else some text

def punycodeSign : List Char := ['x', 'n', '-', '-']

def plainLabel? (label : List Char) : Option (List Char) :=
  if punycodeSign.isPrefixOf label then
    match Punycode.decode? (label.drop 4) with
    | none => none
    | some plain =>
      if isAscii plain ∨ hostText? plain ≠ some plain ∨ plain.contains '.' then none
      else some plain
  else some label

def isWellFormed (label : List Char) : Bool :=
  !label.head?.any Unicode.isMark && Unicode.joinersFit [] label

def asciiLabel (label : List Char) : List Char :=
  if isAscii label then label else punycodeSign ++ Punycode.encode label

def asciiDomain? (s : List Char) : Option (List Char) := do
  let text ← hostText? s
  let labels ← (Text.splitOn '.' text).mapM plainLabel?
  if !labels.all isWellFormed then none
  if labels.any Unicode.hasRightToLeft ∧ !labels.all Unicode.keepsDirection then none
  return Text.joinWith ['.'] (labels.map asciiLabel)

end ScriptPress.Url
