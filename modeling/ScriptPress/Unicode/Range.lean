/-!
# Ranges of code points

Properties of characters are held as lists of ranges of code points.
-/
namespace ScriptPress.Unicode

abbrev Range := Nat × Nat

def inRanges (ranges : List Range) (c : Char) : Bool :=
  ranges.any fun r => r.1 ≤ c.toNat && c.toNat ≤ r.2

end ScriptPress.Unicode
