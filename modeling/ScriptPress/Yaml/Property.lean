import ScriptPress.Yaml.Fault

/-!
# Anchors, tags and directives

The small words of a YAML text: the name of an anchor or alias, a tag with its handle and suffix,
and the two directives that may stand before a document.
-/
namespace ScriptPress.Yaml

/-! ### Names -/

def endsName (c : Char) : Bool :=
  c == '?' || c == ':' || c == ',' || c == ']' || c == '\x7d' || c == '%' || c == '@' ||
    c == '\x60'

def name (reading : Reading) (c : Cursor) : Except Fault (List Char × Cursor) :=
  let text := c.step.rest.takeWhile isNameChar
  let after := c.step.steps text.length
  if text.isEmpty || !(after.blankAt 0 || after.seesAt 0 endsName) then
    .error (.during reading c.mark .noNameCharacter after.mark)
  else .ok (text, after)

/-! ### Tags -/

/-- A tag as it is written: a handle, and the bytes of a suffix. -/
structure Tag where
  handle : List Char
  suffix : List UInt8
  deriving DecidableEq, Repr

def isUriChar (flowSigns : Bool) (c : Char) : Bool :=
  isNameChar c || c == ';' || c == '/' || c == '?' || c == ':' || c == '@' || c == '&' ||
  c == '=' || c == '+' || c == '$' || c == '.' || c == '%' || c == '!' || c == '~' ||
  c == '*' || c == '\'' || c == '(' || c == ')' ||
  (flowSigns && (c == ',' || c == '[' || c == ']'))

def escapedOctet? (s : List Char) : Option Nat :=
  match s with
  | '%' :: a :: b :: _ =>
    if isHexDigit a && isHexDigit b then some (hexValue a * 16 + hexValue b) else none
  | _ => none

/-- The number of octets of a UTF-8 character, from its first one; zero if none starts so. -/
def octetCount (octet : Nat) : Nat :=
  if octet < 0x80 then 1
  else if octet / 0x20 = 6 then 2
  else if octet / 0x10 = 14 then 3
  else if octet / 8 = 30 then 4
  else 0

def trailingOctets : Nat → Cursor → Except (Problem × Mark) (List UInt8 × Cursor)
  | 0, c => .ok ([], c)
  | n + 1, c =>
    match escapedOctet? c.rest with
    | none => .error (.noEscapedOctet, c.mark)
    | some octet =>
      if octet / 0x40 ≠ 2 then .error (.badTrailingOctet, c.mark)
      else
        match trailingOctets n (c.steps 3) with
        | .error e => .error e
        | .ok (octets, c) => .ok (octet.toUInt8 :: octets, c)

def escapedOctets (c : Cursor) : Except (Problem × Mark) (List UInt8 × Cursor) :=
  match escapedOctet? c.rest with
  | none => .error (.noEscapedOctet, c.mark)
  | some octet =>
    if octetCount octet = 0 then .error (.badLeadingOctet, c.mark)
    else
      match trailingOctets (octetCount octet - 1) (c.steps 3) with
      | .error e => .error e
      | .ok (octets, c) => .ok (octet.toUInt8 :: octets, c)

def uriFrom (flowSigns : Bool) : Nat → Cursor → Except (Problem × Mark) (List UInt8 × Cursor)
  | 0, c => .ok ([], c)
  | n + 1, c =>
    match c.rest with
    | [] => .ok ([], c)
    | x :: _ =>
      if !isUriChar flowSigns x then .ok ([], c)
      else
        match (if x = '%' then escapedOctets c else .ok (String.utf8EncodeChar x, c.step)) with
        | .error e => .error e
        | .ok (octets, c) =>
          match uriFrom flowSigns n c with
          | .error e => .error e
          | .ok (more, c) => .ok (octets ++ more, c)

/-- Reads a tag text after `head`, the handle that turned out to be none. One of the two must not
be empty. -/
def uri (flowSigns : Bool) (reading : Reading) (began : Mark) (head : List Char) (c : Cursor) :
    Except Fault (List UInt8 × Cursor) :=
  match uriFrom flowSigns (c.rest.takeWhile (isUriChar flowSigns)).length c with
  | .error (problem, mark) => .error (.during reading began problem mark)
  | .ok (octets, after) =>
    if head.isEmpty && after.mark.index == c.mark.index then
      .error (.during reading began .noTagUri after.mark)
    else .ok (head.tail.flatMap String.utf8EncodeChar ++ octets, after)

def handle (c : Cursor) : List Char × Cursor :=
  let text := c.step.rest.takeWhile isNameChar
  let after := c.step.steps text.length
  if after.sees '!' then ('!' :: (text ++ ['!']), after.step) else ('!' :: text, after)

def isClosedHandle (handle : List Char) : Bool :=
  2 ≤ handle.length && handle.getLast? == some '!'

def tag (flow : Bool) (c : Cursor) : Except Fault (Tag × Cursor) :=
  let began := c.mark
  let read : Except Fault (Tag × Cursor) :=
    if c.seesAt 1 (· == '<') then
      match uri true .uri began [] (c.steps 2) with
      | .error fault => .error fault
      | .ok (suffix, c) =>
        if c.sees '>' then .ok (⟨[], suffix⟩, c.step)
        else .error (.during .tag began .noTagEnd c.mark)
    else
      let (head, after) := handle c
      if isClosedHandle head then
        (uri false .uri began [] after).map fun (suffix, c) => (⟨head, suffix⟩, c)
      else
        (uri false .uri began head after).map fun (suffix, c) =>
          (if suffix.isEmpty then ⟨[], [0x21]⟩ else ⟨['!'], suffix⟩, c)
  match read with
  | .error fault => .error fault
  | .ok (tag, c) =>
    if c.blankAt 0 || (flow && c.sees ',') then .ok (tag, c)
    else .error (.during .tag began .noBlankAfterTag c.mark)

/-! ### Directives -/

inductive Directive where
  | version (major minor : Nat)
  | tag (handle : List Char) (uri : List UInt8)
  deriving DecidableEq, Repr

def versionNumber (began : Mark) (c : Cursor) : Except Fault (Nat × Cursor) :=
  let digits := c.rest.takeWhile Char.isDigit
  if digits.isEmpty then .error (.during .versionDirective began .noVersion c.mark)
  else if 9 < digits.length then
    .error (.during .versionDirective began .longVersion (c.steps 9).mark)
  else
    .ok (digits.foldl (fun n d => 10 * n + (d.toNat - '0'.toNat)) 0, c.steps digits.length)

def versionValue (began : Mark) (c : Cursor) : Except Fault (Directive × Cursor) := do
  let (major, c) ← versionNumber began (c.skipWhile isBlank)
  if !c.sees '.' then throw (.during .versionDirective began .noVersionDot c.mark)
  let (minor, c) ← versionNumber began c.step
  return (.version major minor, c)

def tagValue (began : Mark) (c : Cursor) : Except Fault (Directive × Cursor) := do
  let c := c.skipWhile isBlank
  if !c.sees '!' then throw (.during .handleOfDirective began .noTagMark c.mark)
  let (head, c) := handle c
  if head.length ≠ 1 && !isClosedHandle head then
    throw (.during .closedHandleOfDirective began .noTagMark c.mark)
  if !c.seesAt 0 isBlank then throw (.during .tagDirective began .noBlankAfterHandle c.mark)
  let (octets, c) ← uri true .uriOfDirective began [] (c.skipWhile isBlank)
  if !c.blankAt 0 then throw (.during .tagDirective began .noBlankAfterTag c.mark)
  return (.tag head octets, c)

def directive (c : Cursor) : Except Fault (Directive × Mark × Cursor) := do
  let began := c.mark
  let text := c.step.rest.takeWhile isNameChar
  let after := c.step.steps text.length
  if text.isEmpty then throw (.during .directive began .noDirectiveName after.mark)
  if !after.blankAt 0 then throw (.during .directive began .badDirectiveName after.mark)
  let (value, c) ←
    if text = ['Y', 'A', 'M', 'L'] then versionValue began after
    else if text = ['T', 'A', 'G'] then tagValue began after
    else throw (.during .directive began .unknownDirective after.mark)
  let stop := c.mark
  let c := c.skipWhile isBlank
  let c := if c.sees '#' then c.skipWhile (!isBreak ·) else c
  if !c.atLineEnd then throw (.during .directive began .noLineEnd c.mark)
  return (value, stop, c.lineBreak.2)

end ScriptPress.Yaml
