import ScriptPress.Url.Address
import ScriptPress.Url.Domain
import ScriptPress.Url.Percent

/-!
# Hosts

The host of an address: a domain name, a numeric address, or, under schemes that are not known, any
text without the characters that structure an address.
-/
namespace ScriptPress.Url

inductive Host where
  | domain (name : List Char)
  | address4 (n : Nat)
  | address6 (pieces : List Nat)
  deriving DecidableEq, Repr

namespace Host

def text : Host → List Char
  | .domain name => name
  | .address4 n => address4Text n
  | .address6 pieces => '[' :: (address6Text pieces ++ [']'])

def ofBrackets? (s : List Char) : Option Host :=
  if s.getLast? = some ']' then (address6? (s.drop 1).dropLast).map .address6 else none

def ofSpecial? (s : List Char) : Option Host :=
  if s.head? = some '[' then ofBrackets? s
  else
    match decoded? s with
    | none => none
    | some text =>
      match asciiDomain? text.toList with
      | none => none
      | some name =>
        if name.isEmpty then none
        else if endsInNumber name then (address4? name).map .address4
        else some (.domain name)

/-- The characters that may not stand in a host under any scheme. -/
def isSeparator (c : Char) : Bool :=
  c == '\x00' || c == '\t' || c == '\n' || c == '\r' || c == ' ' || c == '#' || c == '/' ||
    c == ':' || c == '<' || c == '>' || c == '?' || c == '@' || c == '[' || c == '\\' ||
    c == ']' || c == '^' || c == '|'

def ofOther? (s : List Char) : Option Host :=
  if s.head? = some '[' then ofBrackets? s
  else if s.any isSeparator then none
  else some (.domain (encode controlSet s))

end Host
end ScriptPress.Url
