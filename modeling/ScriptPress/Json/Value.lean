import ScriptPress.Text.Utf8

/-!
# JSON values and their compact text

A value holds what its text says: a string that is written with a lone surrogate or with bytes that
are no UTF-8 is kept without content, so that it can be passed over where nobody reads it. The
compact text of a value has no blanks and escapes what JSON does not allow to stand for itself.
-/
namespace ScriptPress.Json

/-- A JSON value; a string or a name has no content when it is no Unicode text. -/
inductive Value where
  | null
  | bool (b : Bool)
  | number (literal : List UInt8)
  | string (content : Option String)
  | array (elements : List Value)
  | object (members : List (Option String × Value))
  deriving Repr, BEq

/-! ### Compact text -/

def hexDigit (n : Nat) : Char :=
  if n < 10 then Char.ofNat ('0'.toNat + n) else Char.ofNat ('a'.toNat + (n - 10))

def escape (c : Char) : List Char :=
  if c = '"' then ['\\', '"']
  else if c = '\\' then ['\\', '\\']
  else if c = '\x08' then ['\\', 'b']
  else if c = '\x0c' then ['\\', 'f']
  else if c = '\n' then ['\\', 'n']
  else if c = '\r' then ['\\', 'r']
  else if c = '\t' then ['\\', 't']
  else if c.toNat < 0x20 then
    ['\\', 'u', '0', '0', hexDigit (c.toNat / 16), hexDigit (c.toNat % 16)]
  else [c]

def quote (s : String) : List Char := '"' :: (s.toList.flatMap escape ++ ['"'])

def stringList : List String → List Char
  | [] => ['[', ']']
  | s :: rest => '[' :: (quote s ++ rest.flatMap (fun s => ',' :: quote s) ++ [']'])

def objectText : List (String × List Char) → List Char
  | [] => ['\x7b', '\x7d']
  | (name, value) :: rest =>
    '\x7b' :: (quote name ++ ':' :: value ++
      rest.flatMap (fun m => ',' :: (quote m.1 ++ ':' :: m.2)) ++ ['\x7d'])

end ScriptPress.Json
