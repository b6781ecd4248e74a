import ScriptPress.Text.Split

/-!
# Internet addresses

The two kinds of numeric host. An address of version 4 may be written in up to four numbers, each
decimal, octal or hexadecimal, of which the last fills what is left; it is printed in four decimal
numbers. An address of version 6 is printed in lower case with its longest run of zeros left out.
-/
namespace ScriptPress.Url

def hexDigitValue? (c : Char) : Option Nat :=
  if c.isDigit then some (c.toNat - '0'.toNat)
  else if 'a' ≤ c ∧ c ≤ 'f' then some (c.toNat - 'a'.toNat + 10)
  else if 'A' ≤ c ∧ c ≤ 'F' then some (c.toNat - 'A'.toNat + 10)
  else none

/-- The number that digits of a base up to 16 write; no digits write zero. -/
def numberOf? (base : Nat) (s : List Char) : Option Nat :=
  s.foldlM (fun n c => (hexDigitValue? c).bind fun d => if d < base then some (n * base + d) else none) 0

/-! ### Version 4 -/

/-- One number of an address: a leading `0x` makes it hexadecimal, a leading `0` octal. -/
def addressNumber? (s : List Char) : Option Nat :=
  match s with
  | [] => none
  | '0' :: 'x' :: rest => numberOf? 16 rest
  | '0' :: 'X' :: rest => numberOf? 16 rest
  | '0' :: c :: rest => numberOf? 8 (c :: rest)
  | s => numberOf? 10 s

def nameParts (s : List Char) : List (List Char) :=
  let parts := Text.splitOn '.' s
  if parts.getLast? = some [] then parts.dropLast else parts

/-- Whether a host is meant as an address of version 4: its last part is a number. -/
def endsInNumber (s : List Char) : Bool :=
  match (nameParts s).getLast? with
  | none => false
  | some last =>
    (!last.isEmpty && last.all Char.isDigit) || (addressNumber? last).isSome

/-- The address of four bytes, as one number, that a text writes. The last part takes up all the
bytes that the parts before it leave. -/
def address4? (s : List Char) : Option Nat := do
  let parts := nameParts s
  if 4 < parts.length then none
  let numbers ← parts.mapM addressNumber?
  let last ← numbers.getLast?
  let front := numbers.dropLast
  if front.any (255 < ·) then none
  let rest := Nat.pow 256 (4 - front.length)
  if rest ≤ last then none
  return front.foldl (256 * · + ·) 0 * rest + last

def decimalText (n : Nat) : List Char := Nat.toDigits 10 n

def address4Text (n : Nat) : List Char :=
  Text.joinWith ['.'] (([3, 2, 1, 0].map fun i => n / Nat.pow 256 i % 256).map decimalText)

/-! ### Version 6 -/

/-- One decimal part, up to 255 and without a leading zero, off the front of a text. -/
def decimalPart? (s : List Char) : Option (Nat × List Char) := do
  let digits := s.takeWhile Char.isDigit
  if digits.isEmpty ∨ 3 < digits.length then none
  if digits.head? = some '0' ∧ digits ≠ ['0'] then none
  let n ← numberOf? 10 digits
  if 255 < n then none
  return (n, s.drop digits.length)

def decimalTail? (s : List Char) : Option (List Nat) := do
  let (a, s) ← decimalPart? s
  let s ← s.head?.bind fun c => if c = '.' then some s.tail else none
  let (b, s) ← decimalPart? s
  let s ← s.head?.bind fun c => if c = '.' then some s.tail else none
  let (c, s) ← decimalPart? s
  let s ← s.head?.bind fun c => if c = '.' then some s.tail else none
  let (d, s) ← decimalPart? s
  if s.isEmpty then some [a * 256 + b, c * 256 + d] else none

/-- Reads the pieces of an address of version 6. `before` holds those in front of the double colon,
the last first, once that was passed; `pieces` those that were read since, the last first. -/
def pieces6? : Nat → Option (List Nat) → List Nat → List Char → Option (Option (List Nat) × List Nat)
  | 0, _, _, _ => none
  | n + 1, before, pieces, s =>
    let count := (before.getD []).length + (if before.isSome then 1 else 0) + pieces.length
    match s with
    | [] => some (before, pieces)
    | ':' :: rest =>
      if count = 8 ∨ before.isSome then none else pieces6? n (some pieces) [] rest
    | s =>
      if 8 ≤ count then none
      else
        let digits := (s.take 4).takeWhile fun c => (hexDigitValue? c).isSome
        match s.drop digits.length with
        | [] => (numberOf? 16 digits).bind fun v => pieces6? n before (v :: pieces) []
        | '.' :: _ =>
          if digits.isEmpty ∨ 6 < count then none
          else (decimalTail? s).map fun tail => (before, tail.reverse ++ pieces)
        | ':' :: rest =>
          if rest.isEmpty then none
          else (numberOf? 16 digits).bind fun v => pieces6? n before (v :: pieces) rest
        | _ => none

def address6? (s : List Char) : Option (List Nat) := do
  let (before, s) ← match s with
    | ':' :: ':' :: rest => some (some [], rest)
    | ':' :: _ => none
    | _ :: _ :: _ => some (none, s)
    | _ => none
  let (before, pieces) ← pieces6? (s.length + 1) before [] s
  match before with
  | none => if pieces.length = 8 then some pieces.reverse else none
  | some before =>
    let given := before.length + pieces.length
    if 8 < given then none
    else some (before.reverse ++ List.replicate (8 - given) 0 ++ pieces.reverse)

/-- The start and the length of the first longest run of zeros, given those of the best run so far
and of the run that goes on. -/
def zeroRun : List Nat → Nat → Nat × Nat → Nat × Nat → Nat × Nat
  | [], _, best, run => if best.2 < run.2 then run else best
  | n :: rest, i, best, run =>
    if n = 0 then zeroRun rest (i + 1) best (if run.2 = 0 then (i, 1) else (run.1, run.2 + 1))
    else zeroRun rest (i + 1) (if best.2 < run.2 then run else best) (0, 0)

def hexText (n : Nat) : List Char := Nat.toDigits 16 n

def address6Text (pieces : List Nat) : List Char :=
  let (start, size) := zeroRun pieces 0 (0, 0) (0, 0)
  if size < 2 then Text.joinWith [':'] (pieces.map hexText)
  else
    Text.joinWith [':'] ((pieces.take start).map hexText) ++ [':', ':'] ++
      Text.joinWith [':'] ((pieces.drop (start + size)).map hexText)

end ScriptPress.Url
