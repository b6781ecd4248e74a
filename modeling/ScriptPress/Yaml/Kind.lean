import ScriptPress.Number.Double
import ScriptPress.Text.Printable
import ScriptPress.Yaml.Node

/-!
# What a node stands for

A plain scalar stands for nothing, a truth value, a number or a text, by how it is spelled; a scalar
with another style is a text. A tag can demand one of the kinds, and then a scalar that is not
spelled so is wrong.
-/
namespace ScriptPress.Yaml

inductive Floating where
  | finite (d : Number.Double)
  | infinity (negative : Bool)
  | notANumber
  deriving DecidableEq, Repr

inductive Kind where
  | unit
  | boolean (b : Bool)
  | integer (n : Int)
  | floating (x : Floating)
  | text (s : List Char)
  | sequence
  | mapping
  deriving DecidableEq, Repr

/-! ### Spellings -/

def isNull (s : List Char) : Bool :=
  s == ['n', 'u', 'l', 'l'] || s == ['N', 'u', 'l', 'l'] || s == ['N', 'U', 'L', 'L'] || s == ['~']

def boolean? (s : List Char) : Option Bool :=
  if s ∈ ["true".toList, "True".toList, "TRUE".toList] then some true
  else if s ∈ ["false".toList, "False".toList, "FALSE".toList] then some false
  else none

def unsigned (s : List Char) : List Char :=
  match s with
  | '+' :: rest => rest
  | '-' :: rest => rest
  | s => s

/-- Whether a text is digits after a zero; it is no number then. -/
def hasLeadingZero (s : List Char) : Bool :=
  match unsigned s with
  | '0' :: c :: rest => (c :: rest).all Char.isDigit
  | _ => false

def digits? (base : Nat) (s : List Char) : Option Nat :=
  if s.isEmpty then none
  else
    s.foldlM
      (fun n c => if isHexDigit c ∧ hexValue c < base then some (n * base + hexValue c) else none) 0

/-- The number of digits with a sign of their base in front, or of decimal digits. -/
def magnitude? (s : List Char) : Option Nat :=
  match s with
  | '0' :: 'x' :: rest => digits? 16 rest
  | '0' :: 'o' :: rest => digits? 8 rest
  | '0' :: 'b' :: rest => digits? 2 rest
  | s => if hasLeadingZero s then none else digits? 10 s

def integer? (s : List Char) : Option Int :=
  match s with
  | '-' :: rest =>
    (magnitude? rest).bind fun n => if n ≤ Nat.pow 2 127 then some (-(n : Int)) else none
  | '+' :: rest =>
    (magnitude? rest).bind fun n => if n < Nat.pow 2 128 then some (n : Int) else none
  | s => (magnitude? s).bind fun n => if n < Nat.pow 2 128 then some (n : Int) else none

def exponent? (s : List Char) : Option Int :=
  match s with
  | [] => some 0
  | c :: rest =>
    if c ≠ 'e' ∧ c ≠ 'E' then none
    else
      match rest with
      | '-' :: rest => (digits? 10 rest).map fun n => -(n : Int)
      | '+' :: rest => (digits? 10 rest).map fun n => (n : Int)
      | rest => (digits? 10 rest).map fun n => (n : Int)

def decimal? (negative : Bool) (s : List Char) : Option Number.Double :=
  let whole := s.takeWhile Char.isDigit
  let rest := s.dropWhile Char.isDigit
  let (fraction, rest) := match rest with
    | '.' :: rest => (rest.takeWhile Char.isDigit, rest.dropWhile Char.isDigit)
    | rest => ([], rest)
  (digits? 10 (whole ++ fraction)).bind fun n =>
    (exponent? rest).bind fun e => Number.Double.ofDecimal? negative n (e - fraction.length)

/-- The number with a point that a text spells; one beyond the greatest number is none. -/
def floating? (s : List Char) : Option Floating :=
  if s ∈ [".inf".toList, ".Inf".toList, ".INF".toList, "+.inf".toList, "+.Inf".toList,
      "+.INF".toList] then some (.infinity false)
  else if s ∈ ["-.inf".toList, "-.Inf".toList, "-.INF".toList] then some (.infinity true)
  else if s ∈ [".nan".toList, ".NaN".toList, ".NAN".toList] then some .notANumber
  else
    match s with
    | '-' :: rest => (decimal? true rest).map .finite
    | '+' :: rest => (decimal? false rest).map .finite
    | s => (decimal? false s).map .finite

namespace Kind

def ofPlain (s : List Char) : Kind :=
  if s.isEmpty || isNull s then .unit
  else
    match boolean? s, integer? s with
    | some b, _ => .boolean b
    | none, some n => .integer n
    | none, none =>
      if hasLeadingZero s then .text s
      else
        match floating? s with
        | some x => .floating x
        | none => .text s

end Kind

/-! ### Tags -/

inductive Demand where
  | boolean
  | integer
  | floating
  | null
  deriving DecidableEq, Repr

def Demand.name : Demand → String
  | .boolean => "a boolean"
  | .integer => "an integer"
  | .floating => "a float"
  | .null => "null"

def Demand.ofTag? (tag : List UInt8) : Option Demand :=
  if tag = "tag:yaml.org,2002:bool".toUTF8.data.toList then some .boolean
  else if tag = "tag:yaml.org,2002:int".toUTF8.data.toList then some .integer
  else if tag = "tag:yaml.org,2002:float".toUTF8.data.toList then some .floating
  else if tag = "tag:yaml.org,2002:null".toUTF8.data.toList then some .null
  else none

def Demand.kind? (d : Demand) (s : List Char) : Option Kind :=
  match d with
  | .boolean => (boolean? s).map .boolean
  | .integer => (integer? s).map .integer
  | .floating => (floating? s).map .floating
  | .null => if isNull s then some .unit else none

namespace Kind

/-- The kind of a scalar; the error is what its tag demands in vain. -/
def ofScalar (tag : Option (List UInt8)) (s : List Char) (style : Style) : Except Demand Kind :=
  match tag with
  | none => .ok (if style = .plain then ofPlain s else .text s)
  | some tag =>
    match Demand.ofTag? tag with
    | some d =>
      match d.kind? s with
      | some kind => .ok kind
      | none => .error d
    | none => .ok (if tag.head? = some 0x21 ∧ style = .plain then ofPlain s else .text s)

def name : Kind → String
  | .unit => "unit value"
  | .boolean b => "boolean `" ++ (if b then "true" else "false") ++ "`"
  | .integer n =>
    "integer `" ++ toString n ++ "`" ++
      (if (UInt64.size : Int) ≤ n then " as u128"
        else if n < Int64.minValue.toInt then " as i128"
        else "")
  | .floating (.finite d) => "floating point `" ++ d.text ++ "`"
  | .floating (.infinity false) => "floating point `inf`"
  | .floating (.infinity true) => "floating point `-inf`"
  | .floating .notANumber => "floating point `NaN`"
  | .text s => "string " ++ String.ofList (Text.shown s)
  | .sequence => "sequence"
  | .mapping => "map"

end Kind
end ScriptPress.Yaml
