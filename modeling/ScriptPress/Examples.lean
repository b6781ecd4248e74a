/-!
# Example pairs

A body is inferred from examples: a source before the change and the source after it. An edit makes
a new list of pairs and leaves the old one as it was; there is no operation that takes a pair away.
-/
namespace ScriptPress

/-- A source before and after the change. -/
structure Example where
  input : String
  output : String
  deriving DecidableEq, Repr

def Example.blank : Example := ⟨"", ""⟩

structure Examples where
  pairs : List Example
  deriving DecidableEq, Repr

namespace Examples

def initial : Examples := ⟨[Example.blank]⟩

def size (e : Examples) : Nat := e.pairs.length

def inputs (e : Examples) : List String := e.pairs.map Example.input

def outputs (e : Examples) : List String := e.pairs.map Example.output

/-! ### Edits -/

/-- The input at an index replaced; an index beyond the end changes nothing. -/
def withInput (e : Examples) (i : Nat) (code : String) : Examples :=
  ⟨e.pairs.modify i fun p => ⟨code, p.output⟩⟩

/-- The output at an index replaced; an index beyond the end changes nothing. -/
def withOutput (e : Examples) (i : Nat) (code : String) : Examples :=
  ⟨e.pairs.modify i fun p => ⟨p.input, code⟩⟩

def withBlank (e : Examples) : Examples := ⟨e.pairs ++ [Example.blank]⟩

theorem size_withInput (e : Examples) (i : Nat) (code : String) :
    (e.withInput i code).size = e.size := by
  simp [size, withInput]

theorem size_withOutput (e : Examples) (i : Nat) (code : String) :
    (e.withOutput i code).size = e.size := by
  simp [size, withOutput]

theorem size_withBlank (e : Examples) : e.withBlank.size = e.size + 1 := by
  simp [size, withBlank]

/-! ### One pair -/

/-- The pair at an index; beyond the end it is the blank one. -/
def pairAt (e : Examples) (i : Nat) : Example := e.pairs[i]?.getD Example.blank

theorem pairAt_initial (i : Nat) : initial.pairAt i = Example.blank := by
  cases i <;> rfl

theorem pairAt_withInput (e : Examples) (i j : Nat) (code : String) :
    (e.withInput i code).pairAt j =
      if i = j ∧ j < e.size then ⟨code, (e.pairAt j).output⟩ else e.pairAt j := by
  simp only [pairAt, withInput, size, List.getElem?_modify]
  by_cases hi : i = j <;> by_cases hj : j < e.pairs.length <;> simp [hi, hj]

theorem pairAt_withOutput (e : Examples) (i j : Nat) (code : String) :
    (e.withOutput i code).pairAt j =
      if i = j ∧ j < e.size then ⟨(e.pairAt j).input, code⟩ else e.pairAt j := by
  simp only [pairAt, withOutput, size, List.getElem?_modify]
  by_cases hi : i = j <;> by_cases hj : j < e.pairs.length <;> simp [hi, hj]

theorem pairAt_withBlank (e : Examples) (i : Nat) : e.withBlank.pairAt i = e.pairAt i := by
  simp only [pairAt, withBlank]
  by_cases hi : i < e.pairs.length
  · rw [List.getElem?_append_left hi]
  · have hle : e.pairs.length ≤ i := by omega
    rw [List.getElem?_append_right hle, List.getElem?_eq_none hle]
    cases i - e.pairs.length <;> rfl

theorem pairs_eq_map_pairAt (e : Examples) : e.pairs = (List.range e.size).map e.pairAt := by
  apply List.ext_getElem?
  intro i
  by_cases hi : i < e.pairs.length
  · simp [pairAt, size, hi]
  · simp [size, hi]

end Examples
end ScriptPress
