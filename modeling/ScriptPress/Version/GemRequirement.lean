import ScriptPress.Text.Blank
import ScriptPress.Text.Split

/-!
# Gem requirements

The grammar of gem requirements: parts with commas between, each an optional operator and a dotted
version that starts with a digit. Blanks are allowed around a part and after its operator.
-/
namespace ScriptPress.Version

/-- The operators. One that another one starts with comes after it. -/
def gemOperators : List (List Char) :=
  ["~>", ">=", "<=", "!=", "=", ">", "<"].map String.toList

def after? : List Char → List Char → Option (List Char)
  | [], s => some s
  | _ :: _, [] => none
  | c :: opening, d :: s => if c = d then after? opening s else none

theorem after?_eq_some_iff (opening s rest : List Char) :
    after? opening s = some rest ↔ s = opening ++ rest := by
  induction opening generalizing s with
  | nil => simp [after?]
  | cons c opening ih =>
    cases s with
    | nil => simp [after?]
    | cons d s =>
      by_cases h : c = d
      · simp [after?, h, ih]
      · have h' : ¬ d = c := fun e => h e.symm
        simp [after?, h, h']

/-- The part without the first operator of the list that it starts with. -/
def withoutGemOperator (part : List Char) : List Char :=
  (gemOperators.findSome? fun op => after? op part).getD part

def isGemSegment (s : List Char) : Bool := !s.isEmpty && s.all Char.isAlphanum

def isGemVersion (s : List Char) : Bool :=
  (match s with
    | [] => false
    | c :: _ => c.isDigit) &&
  (Text.splitOn '.' s).all isGemSegment

def isGemPart (part : List Char) : Bool :=
  isGemVersion (Text.trim (withoutGemOperator part))

def isGemRequirement (s : List Char) : Bool :=
  (Text.splitOn ',' s).all fun part => isGemPart (Text.trim part)

end ScriptPress.Version
