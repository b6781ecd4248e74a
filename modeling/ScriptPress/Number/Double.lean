/-!
# Binary floating-point numbers

Numbers with 53 binary digits, the one nearest to a decimal, and the shortest decimal that is
nearest to such a number again. All arithmetic is on natural numbers: a number is a quotient, and a
quotient is compared by multiplying out.
-/
namespace ScriptPress.Number

/-- The number `mantissa * 2 ^ exponent` with a sign. The mantissa is below `2 ^ 53`, and below
`2 ^ 52` only at the least exponent, `-1074`. -/
structure Double where
  negative : Bool
  mantissa : Nat
  exponent : Int
  deriving DecidableEq, Repr

structure Quotient where
  num : Nat
  den : Nat
  deriving DecidableEq, Repr

namespace Quotient

def scale (q : Quotient) (base : Nat) (e : Int) : Quotient :=
  if 0 ≤ e then ⟨q.num * Nat.pow base e.toNat, q.den⟩
  else ⟨q.num, q.den * Nat.pow base (-e).toNat⟩

def floor (q : Quotient) : Nat := q.num / q.den

/-- The nearest whole number; a half goes to the even neighbour. -/
def roundEven (q : Quotient) : Nat :=
  let f := q.num / q.den
  let r := q.num % q.den
  if 2 * r < q.den then f else if q.den < 2 * r then f + 1 else f + f % 2

end Quotient

namespace Double

def leastExponent : Int := -1074

/-- The least mantissa above the least exponent; twice of it is one past the greatest. -/
def leastMantissa : Nat := Nat.pow 2 52

/-- The number nearest to a quotient, `none` where that is beyond the greatest number. -/
def nearest? (negative : Bool) (q : Quotient) : Option Double :=
  if q.num = 0 then some ⟨negative, 0, leastExponent⟩
  else
    let guess := max leastExponent ((q.num.log2 : Int) - q.den.log2 - 53)
    let e := if 2 * leastMantissa ≤ (q.scale 2 (-guess)).floor then guess + 1 else guess
    let m := (q.scale 2 (-e)).roundEven
    let d : Double :=
      if m = 2 * leastMantissa then ⟨negative, leastMantissa, e + 1⟩ else ⟨negative, m, e⟩
    if 971 < d.exponent then none else some d

/-- The number nearest to `digits * 10 ^ e`, `none` where that is beyond the greatest number. -/
def ofDecimal? (negative : Bool) (digits : Nat) (e : Int) : Option Double :=
  if digits = 0 then some ⟨negative, 0, leastExponent⟩
  else if 310 < e then none
  -- below half of the least positive number, whatever the digits are
  else if e < -400 - (digits.log2 : Int) then some ⟨negative, 0, leastExponent⟩
  else nearest? negative (Quotient.scale ⟨digits, 1⟩ 10 e)

/-! ### The shortest decimal -/

/-- The numbers nearest to a double: those between two bounds, the bounds included if the mantissa
is even. All three values share a denominator. -/
structure Span where
  low : Nat
  mid : Nat
  high : Nat
  den : Nat
  closed : Bool

def span (d : Double) : Span :=
  let unit := Quotient.scale ⟨1, 1⟩ 2 (d.exponent - 2)
  let below := if d.mantissa = leastMantissa ∧ leastExponent < d.exponent then 1 else 2
  ⟨(4 * d.mantissa - below) * unit.num, 4 * d.mantissa * unit.num,
    (4 * d.mantissa + 2) * unit.num, unit.den, d.mantissa % 2 = 0⟩

namespace Span

def holds (s : Span) (q : Quotient) : Bool :=
  let low := s.low * q.den
  let high := s.high * q.den
  let x := q.num * s.den
  if s.closed then decide (low ≤ x ∧ x ≤ high) else decide (low < x ∧ x < high)

/-- The multiple of `10 ^ e` in a span that is nearest to its middle, as a multiplier. -/
def multiple? (s : Span) (e : Int) : Option Nat :=
  let grid := Quotient.scale ⟨s.mid, s.den⟩ 10 (-e)
  let f := grid.floor
  let fits (c : Nat) : Bool := s.holds (Quotient.scale ⟨c, 1⟩ 10 e)
  -- of two neighbours the nearer one, of two equally near the greater one
  let upper := decide (grid.den ≤ 2 * (grid.num % grid.den))
  if fits f && (!upper || !fits (f + 1)) then some f
  else if fits (f + 1) then some (f + 1)
  else none

/-- Tries one digit fewer at each step up from the exponent `e`. -/
def shortestFrom (s : Span) : Nat → Int → Option (Nat × Int)
  | 0, _ => none
  | n + 1, e =>
    match s.multiple? e with
    | some c => some (c, e)
    | none => shortestFrom s n (e - 1)

end Span

/-- The place of the leading digit of a quotient that is not zero: the least `e` with the quotient
below `10 ^ e`. -/
def leadingPlace (q : Quotient) : Int :=
  if q.den ≤ q.num then ((Nat.toDigits 10 q.floor).length : Int)
  else 1 - ((List.range 400).find? fun j => q.den ≤ q.num * Nat.pow 10 j).getD 0

def stripZeros : Nat → Nat → Int → Nat × Int
  | 0, c, e => (c, e)
  | n + 1, c, e => if c % 10 = 0 ∧ c ≠ 0 then stripZeros n (c / 10) (e + 1) else (c, e)

/-- The decimal `digits * 10 ^ e` with the fewest digits that is nearest to a number, and of those
the one nearest to it. -/
def shortest (d : Double) : Nat × Int :=
  if d.mantissa = 0 then (0, 0)
  else
    let s := d.span
    match s.shortestFrom 18 (leadingPlace ⟨s.mid, s.den⟩ - 1) with
    | some (c, e) => stripZeros 18 c e
    | none => (0, 0)

def positional (c : Nat) (e : Int) : List Char :=
  let digits := Nat.toDigits 10 c
  if 0 ≤ e then digits ++ List.replicate e.toNat '0' ++ ['.', '0']
  else
    let places := (-e).toNat
    let padded := List.replicate (places + 1 - digits.length) '0' ++ digits
    padded.take (padded.length - places) ++ '.' :: padded.drop (padded.length - places)

def text (d : Double) : String :=
  let (c, e) := d.shortest
  String.ofList ((if d.negative then ['-'] else []) ++ positional c e)

end Double
end ScriptPress.Number
