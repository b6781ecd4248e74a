import ScriptPress.Json.Value

/-!
# Reading JSON

A reader for the grammar of RFC 8259 over bytes. Nothing may stand before or after the value but
blanks; there is no byte order mark, no trailing comma and no comment. Each step takes what it
recognises off the front of the bytes and returns the rest.
-/
namespace ScriptPress.Json

def isBlank (b : UInt8) : Bool := b == 0x20 || b == 0x09 || b == 0x0A || b == 0x0D

def isDigit (b : UInt8) : Bool := 0x30 ≤ b && b ≤ 0x39

def skipBlanks (s : List UInt8) : List UInt8 := s.dropWhile isBlank

def word? : List UInt8 → List UInt8 → Option (List UInt8)
  | [], s => some s
  | _ :: _, [] => none
  | b :: word, c :: s => if b = c then word? word s else none

/-! ### Strings -/

def hexValue? (b : UInt8) : Option Nat :=
  if 0x30 ≤ b ∧ b ≤ 0x39 then some (b.toNat - 0x30)
  else if 0x61 ≤ b ∧ b ≤ 0x66 then some (b.toNat - 0x57)
  else if 0x41 ≤ b ∧ b ≤ 0x46 then some (b.toNat - 0x37)
  else none

def unit? (a b c d : UInt8) : Option Nat := do
  return (((← hexValue? a) * 16 + (← hexValue? b)) * 16 + (← hexValue? c)) * 16 + (← hexValue? d)

def shortEscape? (b : UInt8) : Option UInt8 :=
  if b = 0x22 ∨ b = 0x5C ∨ b = 0x2F then some b
  else if b = 0x62 then some 0x08
  else if b = 0x66 then some 0x0C
  else if b = 0x6E then some 0x0A
  else if b = 0x72 then some 0x0D
  else if b = 0x74 then some 0x09
  else none

/-- A piece of a written string: a byte of text, or a UTF-16 unit written by its number. -/
inductive Piece where
  | byte (b : UInt8)
  | unit (n : Nat)
  deriving DecidableEq, Repr

/-- The pieces up to the closing quote, and what follows it. -/
def pieces? : List UInt8 → Option (List Piece × List UInt8)
  | [] => none
  | 0x22 :: s => some ([], s)
  | 0x5C :: 0x75 :: a :: b :: c :: d :: s =>
    match unit? a b c d, pieces? s with
    | some n, some (pieces, rest) => some (.unit n :: pieces, rest)
    | _, _ => none
  | 0x5C :: e :: s =>
    match shortEscape? e, pieces? s with
    | some b, some (pieces, rest) => some (.byte b :: pieces, rest)
    | _, _ => none
  | b :: s =>
    if b < 0x20 ∨ b = 0x5C then none
    else
      match pieces? s with
      | some (pieces, rest) => some (.byte b :: pieces, rest)
      | none => none

def isHighSurrogate (n : Nat) : Bool := 0xD800 ≤ n && n < 0xDC00

def isLowSurrogate (n : Nat) : Bool := 0xDC00 ≤ n && n < 0xE000

/-- The UTF-8 bytes that pieces write; a surrogate counts only as half of a pair. -/
def bytes? : List Piece → Option (List UInt8)
  | [] => some []
  | .byte b :: pieces => (bytes? pieces).map (b :: ·)
  | .unit n :: .unit m :: pieces =>
    if isHighSurrogate n then
      if isLowSurrogate m then
        (bytes? pieces).map
          (String.utf8EncodeChar (Char.ofNat (0x10000 + (n - 0xD800) * 0x400 + (m - 0xDC00))) ++ ·)
      else none
    else if isLowSurrogate n then none
    else (bytes? (.unit m :: pieces)).map (String.utf8EncodeChar (Char.ofNat n) ++ ·)
  | .unit n :: pieces =>
    if isHighSurrogate n || isLowSurrogate n then none
    else (bytes? pieces).map (String.utf8EncodeChar (Char.ofNat n) ++ ·)

def content? (pieces : List Piece) : Option String := (bytes? pieces).bind Text.ofUtf8?

/-! ### Numbers -/

def digits? : List UInt8 → Option (List UInt8)
  | [] => none
  | b :: s => if isDigit b then some (s.dropWhile isDigit) else none

/-- Drops the whole part of a number: zero, or digits without a leading zero. -/
def wholePart? : List UInt8 → Option (List UInt8)
  | [] => none
  | b :: s =>
    if b = 0x30 then
      match s with
      | [] => some []
      | c :: s => if isDigit c then none else some (c :: s)
    else digits? (b :: s)

def fraction? : List UInt8 → Option (List UInt8)
  | 0x2E :: s => digits? s
  | s => some s

def exponent? : List UInt8 → Option (List UInt8)
  | [] => some []
  | b :: s =>
    if b = 0x65 ∨ b = 0x45 then
      match s with
      | 0x2B :: s => digits? s
      | 0x2D :: s => digits? s
      | s => digits? s
    else some (b :: s)

def number? (s : List UInt8) : Option (List UInt8) :=
  let unsigned := match s with
    | 0x2D :: s => s
    | s => s
  (wholePart? unsigned).bind fun s => (fraction? s).bind exponent?

/-! ### Values -/

mutual

def value? : Nat → List UInt8 → Option (Value × List UInt8)
  | 0, _ => none
  | n + 1, s =>
    match s with
    | [] => none
    | b :: rest =>
      if b = 0x22 then
        (pieces? rest).map fun (pieces, rest) => (.string (content? pieces), rest)
      else if b = 0x5B then
        match skipBlanks rest with
        | 0x5D :: rest => some (.array [], rest)
        | rest => (elements? n rest).map fun (elements, rest) => (.array elements, rest)
      else if b = 0x7B then
        match skipBlanks rest with
        | 0x7D :: rest => some (.object [], rest)
        | rest => (members? n rest).map fun (members, rest) => (.object members, rest)
      else if b = 0x6E then (word? [0x75, 0x6C, 0x6C] rest).map fun rest => (.null, rest)
      else if b = 0x74 then (word? [0x72, 0x75, 0x65] rest).map fun rest => (.bool true, rest)
      else if b = 0x66 then
        (word? [0x61, 0x6C, 0x73, 0x65] rest).map fun rest => (.bool false, rest)
      else
        (number? (b :: rest)).map fun rest' =>
          (.number ((b :: rest).take (rest.length + 1 - rest'.length)), rest')

/-- Takes the elements of an array and its closing bracket off the front. -/
def elements? : Nat → List UInt8 → Option (List Value × List UInt8)
  | 0, _ => none
  | n + 1, s =>
    match value? n s with
    | none => none
    | some (value, rest) =>
      match skipBlanks rest with
      | 0x5D :: rest => some ([value], rest)
      | 0x2C :: rest =>
        (elements? n (skipBlanks rest)).map fun (values, rest) => (value :: values, rest)
      | _ => none

/-- Takes the members of an object and its closing brace off the front. -/
def members? : Nat → List UInt8 → Option (List (Option String × Value) × List UInt8)
  | 0, _ => none
  | n + 1, s =>
    match s with
    | 0x22 :: rest =>
      match pieces? rest with
      | none => none
      | some (pieces, rest) =>
        match skipBlanks rest with
        | 0x3A :: rest =>
          match value? n (skipBlanks rest) with
          | none => none
          | some (value, rest) =>
            match skipBlanks rest with
            | 0x7D :: rest => some ([(content? pieces, value)], rest)
            | 0x2C :: rest =>
              (members? n (skipBlanks rest)).map fun (members, rest) =>
                ((content? pieces, value) :: members, rest)
            | _ => none
        | _ => none
    | _ => none

end

def read? (s : List UInt8) : Option Value :=
  match value? (s.length + 1) (skipBlanks s) with
  | some (value, rest) => if (skipBlanks rest).isEmpty then some value else none
  | none => none

end ScriptPress.Json
