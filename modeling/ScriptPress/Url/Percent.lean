import ScriptPress.Text.Utf8

/-!
# Percent-encoding

A character that may not stand for itself in a part of an address is written as the bytes of its
UTF-8 form, each as `%` and two hexadecimal digits. Each part has its own set of such characters;
characters beyond ASCII are in all of them.
-/
namespace ScriptPress.Url

/-! ### Character sets -/

abbrev EncodeSet := Char → Bool

def controlSet : EncodeSet := fun c => c.toNat < 0x20 || 0x7F ≤ c.toNat

def fragmentSet : EncodeSet := fun c =>
  controlSet c || c == ' ' || c == '"' || c == '<' || c == '>' || c == '\x60'

def querySet : EncodeSet := fun c =>
  controlSet c || c == ' ' || c == '"' || c == '#' || c == '<' || c == '>'

def specialQuerySet : EncodeSet := fun c => querySet c || c == '\''

def pathSet : EncodeSet := fun c =>
  fragmentSet c || c == '#' || c == '?' || c == '\x7b' || c == '\x7d'

def credentialSet : EncodeSet := fun c =>
  pathSet c || c == '/' || c == ':' || c == ';' || c == '=' || c == '@' || c == '[' ||
    c == '\\' || c == ']' || c == '^' || c == '|'

/-! ### Encoding -/

def upperHexDigit (n : Nat) : Char :=
  if n < 10 then Char.ofNat ('0'.toNat + n) else Char.ofNat ('A'.toNat + (n - 10))

def encodeByte (b : UInt8) : List Char :=
  ['%', upperHexDigit (b.toNat / 16), upperHexDigit (b.toNat % 16)]

def encodeChar (set : EncodeSet) (c : Char) : List Char :=
  if set c then (String.utf8EncodeChar c).flatMap encodeByte else [c]

def encode (set : EncodeSet) (s : List Char) : List Char := s.flatMap (encodeChar set)

/-! ### Decoding -/

def hexByteValue? (b : UInt8) : Option UInt8 :=
  if 0x30 ≤ b ∧ b ≤ 0x39 then some (b - 0x30)
  else if 0x41 ≤ b ∧ b ≤ 0x46 then some (b - 0x37)
  else if 0x61 ≤ b ∧ b ≤ 0x66 then some (b - 0x57)
  else none

/-- Bytes with every `%` that two digits follow replaced by the byte they write. -/
def decode : List UInt8 → List UInt8
  | 0x25 :: a :: b :: rest =>
    match hexByteValue? a, hexByteValue? b with
    | some high, some low => (high * 16 + low) :: decode rest
    | _, _ => 0x25 :: decode (a :: b :: rest)
  | b :: rest => b :: decode rest
  | [] => []

def decoded? (s : List Char) : Option String :=
  Text.ofUtf8? (decode (Text.utf8 (String.ofList s)))

end ScriptPress.Url
