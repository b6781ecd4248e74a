import ScriptPress.Json.Reader

/-!
# Flat JSON objects as they are written

The grammar of RFC 8259 for an object whose values are strings or `null`, character by character: a
string is written in glyphs, each a character that stands for itself or an escape, and blanks may
stand around every sign. A layout has a text, and it says something if it is legal.
-/
namespace ScriptPress.Json

theorem exists_of_mapM_cons {α β : Type} {f : α → Option β} {a : α} {l : List α} {bs : List β}
    (h : (a :: l).mapM f = some bs) :
    ∃ b rest, f a = some b ∧ l.mapM f = some rest ∧ bs = b :: rest := by
  simp only [List.mapM_cons, Option.bind_eq_bind, Option.bind_eq_some_iff, Option.pure_def,
    Option.some.injEq] at h
  obtain ⟨b, hb, rest, hrest, rfl⟩ := h
  exact ⟨b, rest, hb, hrest, rfl⟩

theorem mem_of_lookup {α β : Type} [BEq α] [LawfulBEq α] {l : List (α × β)} {a : α} {b : β}
    (h : l.lookup a = some b) : (a, b) ∈ l := by
  obtain ⟨before, after, rfl, -⟩ := List.lookup_eq_some_iff.mp h
  simp

/-- A character of a string as it is written. -/
inductive Glyph where
  | plain (c : Char)
  | short (sign : Char)
  | numbered (digits : List Char)
  /-- A character beyond the first plane, written as two UTF-16 units. -/
  | paired (high low : List Char)
  deriving DecidableEq, Repr

def hexDigits : List (Char × Nat) :=
  [('0', 0), ('1', 1), ('2', 2), ('3', 3), ('4', 4), ('5', 5), ('6', 6), ('7', 7), ('8', 8),
    ('9', 9), ('a', 10), ('b', 11), ('c', 12), ('d', 13), ('e', 14), ('f', 15), ('A', 10),
    ('B', 11), ('C', 12), ('D', 13), ('E', 14), ('F', 15)]

def shortEscapes : List (Char × Char) :=
  [('"', '"'), ('\\', '\\'), ('/', '/'), ('b', '\x08'), ('f', '\x0c'), ('n', '\n'), ('r', '\r'),
    ('t', '\t')]

def unitOf? : List Char → Option Nat
  | [a, b, c, d] => do
    return (((← hexDigits.lookup a) * 16 + (← hexDigits.lookup b)) * 16 +
      (← hexDigits.lookup c)) * 16 + (← hexDigits.lookup d)
  | _ => none

namespace Glyph

def text : Glyph → List Char
  | plain c => [c]
  | short sign => ['\\', sign]
  | numbered digits => '\\' :: 'u' :: digits
  | paired high low => '\\' :: 'u' :: (high ++ '\\' :: 'u' :: low)

/-- The character that a glyph writes, if it is one. -/
def char? : Glyph → Option Char
  | plain c => if c = '"' ∨ c = '\\' ∨ c.toNat < 0x20 then none else some c
  | short sign => shortEscapes.lookup sign
  | numbered digits =>
    (unitOf? digits).bind fun n =>
      if isHighSurrogate n || isLowSurrogate n then none else some (Char.ofNat n)
  | paired high low => do
    let high ← unitOf? high
    let low ← unitOf? low
    if isHighSurrogate high && isLowSurrogate low then
      some (Char.ofNat (0x10000 + (high - 0xD800) * 0x400 + (low - 0xDC00)))
    else none

end Glyph

def stringText (s : List Glyph) : List Char := '"' :: (s.flatMap Glyph.text ++ ['"'])

def isSpace (c : Char) : Bool := c == ' ' || c == '\t' || c == '\n' || c == '\r'

theorem cases_of_isSpace {c : Char} (h : isSpace c = true) :
    c = ' ' ∨ c = '\t' ∨ c = '\n' ∨ c = '\r' := by
  simpa [isSpace, or_assoc] using h

/-- A member of an object, with the blanks around its parts; `null` is written for no value. -/
structure Member where
  before : List Char
  name : List Glyph
  beforeColon : List Char
  afterColon : List Char
  value : Option (List Glyph)
  after : List Char
  deriving DecidableEq, Repr

namespace Member

def valueText (m : Member) : List Char :=
  match m.value with
  | some s => stringText s
  | none => ['n', 'u', 'l', 'l']

def text (m : Member) : List Char :=
  m.before ++ (stringText m.name ++
    (m.beforeColon ++ ':' :: (m.afterColon ++ (m.valueText ++ m.after))))

def saidValue? (m : Member) : Option (Option (List Char)) :=
  match m.value with
  | some s => (s.mapM Glyph.char?).map some
  | none => some none

/-- The name and the value of a member, if it is legal JSON. -/
def says? (m : Member) : Option (List Char × Option (List Char)) :=
  if (m.before ++ m.beforeColon ++ m.afterColon ++ m.after).all isSpace then do
    return (← m.name.mapM Glyph.char?, ← m.saidValue?)
  else none

theorem parts_of_says (m : Member) (said : List Char × Option (List Char))
    (h : m.says? = some said) :
    m.name.mapM Glyph.char? = some said.1 ∧ m.saidValue? = some said.2 ∧
      (∀ c ∈ m.before, isSpace c = true) ∧ (∀ c ∈ m.beforeColon, isSpace c = true) ∧
      (∀ c ∈ m.afterColon, isSpace c = true) ∧ ∀ c ∈ m.after, isSpace c = true := by
  unfold says? at h
  split at h
  · rename_i hblanks
    simp only [List.all_append, Bool.and_eq_true, List.all_eq_true] at hblanks
    obtain ⟨⟨⟨hbefore, hbeforeColon⟩, hafterColon⟩, hafter⟩ := hblanks
    simp only [Option.bind_eq_bind, Option.bind_eq_some_iff, Option.pure_def,
      Option.some.injEq] at h
    obtain ⟨name, hname, value, hvalue, rfl⟩ := h
    exact ⟨hname, hvalue, hbefore, hbeforeColon, hafterColon, hafter⟩
  · cases h

end Member

/-- An object that is not empty, with the blanks around it. -/
structure Object where
  lead : List Char
  first : Member
  rest : List Member
  trail : List Char
  deriving DecidableEq, Repr

namespace Object

def members (o : Object) : List Member := o.first :: o.rest

def text (o : Object) : List Char :=
  o.lead ++ '\x7b' :: (o.first.text ++ (o.rest.flatMap (fun m => ',' :: m.text) ++
    '\x7d' :: o.trail))

def says? (o : Object) : Option (List (List Char × Option (List Char))) :=
  if (o.lead ++ o.trail).all isSpace then o.members.mapM Member.says? else none

theorem parts_of_says (o : Object) (said : List (List Char × Option (List Char)))
    (h : o.says? = some said) :
    ∃ first more, said = first :: more ∧ o.first.says? = some first ∧
      o.rest.mapM Member.says? = some more := by
  unfold says? at h
  split at h
  · obtain ⟨first, more, hfirst, hmore, rfl⟩ := exists_of_mapM_cons h
    exact ⟨first, more, rfl, hfirst, hmore⟩
  · cases h

end Object
end ScriptPress.Json
