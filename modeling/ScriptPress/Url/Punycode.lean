/-!
# Punycode

The ASCII form of a label of a host name that has characters beyond ASCII (RFC 3492). The ASCII
characters of the label come first, then, as numbers of variable length, how far one has to go in
the order of code points and places to the next character that is to be put in.
-/
namespace ScriptPress.Url.Punycode

/-! ### Digits -/

/-- The digits 0 to 25 are letters, 26 to 35 decimal digits. -/
def digitChar (d : Nat) : Char :=
  if d < 26 then Char.ofNat ('a'.toNat + d) else Char.ofNat ('0'.toNat + (d - 26))

def digitValue? (c : Char) : Option Nat :=
  if 'a' ≤ c ∧ c ≤ 'z' then some (c.toNat - 'a'.toNat)
  else if 'A' ≤ c ∧ c ≤ 'Z' then some (c.toNat - 'A'.toNat)
  else if c.isDigit then some (c.toNat - '0'.toNat + 26)
  else none

/-- The least value of a digit, at a place, that does not end a number. -/
def threshold (place bias : Nat) : Nat := max 1 (min 26 (place - bias))

theorem threshold_pos (place bias : Nat) : 1 ≤ threshold place bias := by
  unfold threshold; omega

theorem threshold_le (place bias : Nat) : threshold place bias ≤ 26 := by
  unfold threshold; omega

/-- Divides a delta until it is small, counting 36 for each time. -/
def reduceDelta (delta count : Nat) : Nat × Nat :=
  if 455 < delta then reduceDelta (delta / 35) (count + 36) else (delta, count)
termination_by delta
decreasing_by exact Nat.div_lt_self (by omega) (by omega)

def nextBias (delta size : Nat) (first : Bool) : Nat :=
  let delta := if first then delta / 700 else delta / 2
  let (delta, count) := reduceDelta (delta + delta / size) 0
  count + 36 * delta / (delta + 38)

/-! ### Writing -/

def deltaDigits (bias place delta : Nat) : List Char :=
  let t := threshold place bias
  if delta < t then [digitChar delta]
  else
    digitChar (t + (delta - t) % (36 - t)) ::
      deltaDigits bias (place + 36) ((delta - t) / (36 - t))
termination_by delta
decreasing_by
  have h1 := threshold_pos place bias
  have h2 := threshold_le place bias
  calc (delta - threshold place bias) / (36 - threshold place bias)
      ≤ delta - threshold place bias := Nat.div_le_self _ _
    _ < delta := by omega

/-- The state of writing: the digits so far, the delta, the bias, the number of characters put in
so far. -/
structure Writer where
  digits : List Char
  delta : Nat
  bias : Nat
  size : Nat

def Writer.pass (basic n : Nat) (w : Writer) (c : Char) : Writer :=
  if c.toNat < n then { w with delta := w.delta + 1 }
  else if c.toNat = n then
    ⟨w.digits ++ deltaDigits w.bias 36 w.delta, 0, nextBias w.delta (w.size + 1) (w.size == basic),
      w.size + 1⟩
  else w

/-- Puts in the characters of each code point of an ascending list; `n` is the code point that the
delta has come to. -/
def writeFrom (label : List Char) (basic : Nat) : List Nat → Nat → Writer → Writer
  | [], _, w => w
  | m :: rest, n, w =>
    let w := { w with delta := w.delta + (m - n) * (w.size + 1) }
    let w := label.foldl (Writer.pass basic m) w
    writeFrom label basic rest (m + 1) { w with delta := w.delta + 1 }

def codePoints (label : List Char) : List Nat :=
  let beyond := (label.filter (0x80 ≤ ·.toNat)).map Char.toNat
  (beyond.mergeSort (· ≤ ·)).eraseDups

def encode (label : List Char) : List Char :=
  let basic := label.filter (·.toNat < 0x80)
  let w := writeFrom label basic.length (codePoints label) 0x80 ⟨[], 0, 72, basic.length⟩
  basic ++ (if basic.isEmpty then [] else ['-']) ++ w.digits

/-! ### Reading -/

def readDelta? (bias place weight i : Nat) : List Char → Option (Nat × List Char)
  | [] => none
  | c :: rest =>
    match digitValue? c with
    | none => none
    | some d =>
      let i := i + d * weight
      if 0xFFFFFFFF < i then none
      else
        let t := threshold place bias
        if d < t then some (i, rest) else readDelta? bias (place + 36) (weight * (36 - t)) i rest

def readFrom? : Nat → Nat → Nat → Nat → List Char → List Char → Option (List Char)
  | 0, _, _, _, _, _ => none
  | fuel + 1, n, i, bias, label, digits =>
    if digits.isEmpty then some label
    else
      match readDelta? bias 36 1 i digits with
      | none => none
      | some (j, rest) =>
        let size := label.length + 1
        let n := n + j / size
        let place := j % size
        if 0x10FFFF < n ∨ (0xD800 ≤ n ∧ n ≤ 0xDFFF) then none
        else
          readFrom? fuel n (place + 1) (nextBias (j - i) size (i == 0))
            (label.take place ++ Char.ofNat n :: label.drop place) rest

def decode? (s : List Char) : Option (List Char) :=
  if s.any (0x80 ≤ ·.toNat) then none
  else
    let tail := (s.reverse.takeWhile (· ≠ '-')).reverse
    let basic := if tail.length = s.length then [] else s.take (s.length - tail.length - 1)
    readFrom? (tail.length + 1) 0x80 0 72 basic tail

end ScriptPress.Url.Punycode
