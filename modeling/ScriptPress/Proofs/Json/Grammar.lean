import ScriptPress.Proofs.Json.Layout
import ScriptPress.Proofs.Text.Octets

/-!
# The grammar of JSON

What is a JSON text and which value it denotes, production by production as in RFC 8259, without a
word on how it is read. Every string has to write Unicode text: one with half of a surrogate pair
denotes nothing here.
-/
namespace ScriptPress.Json

def Blanks (s : List Char) : Prop := ∀ c ∈ s, isSpace c = true

/-! ### Numbers -/

def IsDigits (s : List Char) : Prop := s ≠ [] ∧ ∀ c ∈ s, c.isDigit = true

def IsWhole (s : List Char) : Prop := s = ['0'] ∨ IsDigits s ∧ s.head? ≠ some '0'

inductive IsFraction : List Char → Prop where
  | none : IsFraction []
  | point {digits : List Char} (h : IsDigits digits) : IsFraction ('.' :: digits)

inductive IsExponent : List Char → Prop where
  | none : IsExponent []
  | unsigned {e : Char} {digits : List Char} (he : e = 'e' ∨ e = 'E') (h : IsDigits digits) :
      IsExponent (e :: digits)
  | signed {e sign : Char} {digits : List Char} (he : e = 'e' ∨ e = 'E')
      (hs : sign = '+' ∨ sign = '-') (h : IsDigits digits) : IsExponent (e :: sign :: digits)

inductive IsNumber : List Char → Prop where
  | mk {sign whole fraction exponent : List Char} (hs : sign = [] ∨ sign = ['-'])
      (hw : IsWhole whole) (hf : IsFraction fraction) (he : IsExponent exponent) :
      IsNumber (sign ++ (whole ++ (fraction ++ exponent)))

/-! ### Values -/

inductive IsName : List Char → String → Prop where
  | mk {before after name : List Char} {s : List Glyph} (hb : Blanks before) (ha : Blanks after)
      (hs : s.mapM Glyph.char? = some name) :
      IsName (before ++ (stringText s ++ after)) (String.ofList name)

mutual

/-- A text denotes a value, and nothing stands around it. -/
inductive Bare : List Char → Value → Prop where
  | null : Bare ['n', 'u', 'l', 'l'] .null
  | true : Bare ['t', 'r', 'u', 'e'] (.bool true)
  | false : Bare ['f', 'a', 'l', 's', 'e'] (.bool false)
  | number {s : List Char} (h : IsNumber s) : Bare s (.number (Text.octets s))
  | string {s : List Glyph} {content : List Char} (h : s.mapM Glyph.char? = some content) :
      Bare (stringText s) (.string (some (String.ofList content)))
  | emptyArray {s : List Char} (h : Blanks s) : Bare ('[' :: (s ++ [']'])) (.array [])
  | array {s : List Char} {values : List Value} (h : Elements s values) :
      Bare ('[' :: (s ++ [']'])) (.array values)
  | emptyObject {s : List Char} (h : Blanks s) : Bare ('\x7b' :: (s ++ ['\x7d'])) (.object [])
  | object {s : List Char} {members : List (Option String × Value)} (h : Members s members) :
      Bare ('\x7b' :: (s ++ ['\x7d'])) (.object members)

/-- A JSON text: a value with blanks around it. -/
inductive Denotes : List Char → Value → Prop where
  | mk {before s after : List Char} {v : Value} (hb : Blanks before) (ha : Blanks after)
      (h : Bare s v) : Denotes (before ++ (s ++ after)) v

inductive Elements : List Char → List Value → Prop where
  | last {s : List Char} {v : Value} (h : Denotes s v) : Elements s [v]
  | cons {s rest : List Char} {v : Value} {values : List Value} (h : Denotes s v)
      (hr : Elements rest values) : Elements (s ++ ',' :: rest) (v :: values)

inductive Members : List Char → List (Option String × Value) → Prop where
  | last {name s : List Char} {n : String} {v : Value} (hn : IsName name n) (h : Denotes s v) :
      Members (name ++ ':' :: s) [(some n, v)]
  | cons {name s rest : List Char} {n : String} {v : Value}
      {members : List (Option String × Value)} (hn : IsName name n) (h : Denotes s v)
      (hr : Members rest members) :
      Members (name ++ ':' :: (s ++ ',' :: rest)) ((some n, v) :: members)

end

end ScriptPress.Json
