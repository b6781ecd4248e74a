import ScriptPress.Url.Basic

/-!
# Reading addresses

Reads an absolute address by the rules that browsers follow: blanks around it are cut off, tabs and
line breaks in it are dropped, and under the known schemes slashes may be missing or doubled.
-/
namespace ScriptPress.Url

def isEdge (c : Char) : Bool := c.toNat ≤ 0x20

def isLayout (c : Char) : Bool := c == '\t' || c == '\n' || c == '\r'

/-- The text of an address without the characters that do not count. -/
def cleaned (s : List Char) : List Char :=
  (((s.dropWhile isEdge).reverse.dropWhile isEdge).reverse).filter (!isLayout ·)

/-! ### Parts -/

def isSchemeChar (c : Char) : Bool := c.isAlphanum || c == '+' || c == '-' || c == '.'

/-- The scheme in lower case and the text after its colon. -/
def scheme? (s : List Char) : Option (List Char × List Char) :=
  if s.head?.any Char.isAlpha then
    match s.dropWhile isSchemeChar with
    | ':' :: rest => some ((s.takeWhile isSchemeChar).map Char.toLower, rest)
    | _ => none
  else none

def endsAuthority (kind : SchemeKind) (c : Char) : Bool := kind.isSlash c || c == '?' || c == '#'

/-- The credentials before a host, and the text after them. Credentials of which nothing is written
must not stand before nothing. -/
def credentials? (kind : SchemeKind) (s : List Char) :
    Option ((List Char × List Char) × List Char) :=
  let part := s.takeWhile (!endsAuthority kind ·)
  if !part.contains '@' then some (([], []), s)
  else
    let host := (part.reverse.takeWhile (· ≠ '@')).reverse
    let written := part.take (part.length - host.length - 1)
    let rest := s.drop (written.length + 1)
    if written.isEmpty then
      if rest.head?.any (endsAuthority kind) then none else some (([], []), rest)
    else
      let name := written.takeWhile (· ≠ ':')
      let password := (written.drop name.length).drop 1
      some ((encode credentialSet name, encode credentialSet password), rest)

/-- The length of a host, which ends at a colon outside of brackets or with the authority. -/
def hostLength (kind : SchemeKind) (inside : Bool) : List Char → Nat
  | [] => 0
  | c :: rest =>
    if endsAuthority kind c || (c == ':' && !inside) then 0
    else hostLength kind (if c = '[' then true else if c = ']' then false else inside) rest + 1

def defaultPort? (scheme : List Char) : Option Nat :=
  match String.ofList scheme with
  | "http" | "ws" => some 80
  | "https" | "wss" => some 443
  | "ftp" => some 21
  | _ => none

/-- The port after a host, and the text after it. No port and the usual one are the same. -/
def port? (scheme s : List Char) : Option (Option Nat × List Char) :=
  match s with
  | ':' :: s =>
    let digits := s.takeWhile Char.isDigit
    let rest := s.drop digits.length
    let n := digits.foldl (fun n c => if 65535 < n then n else n * 10 + (c.toNat - '0'.toNat)) 0
    if 65535 < n then none
    else if rest.head?.all fun c => c == '/' || c == '\\' || c == '?' || c == '#' then
      some (if digits.isEmpty ∨ defaultPort? scheme = some n then none else some n, rest)
    else none
  | s => some (none, s)

def cutQuery (kind : SchemeKind) (s : List Char) :
    List Char × Option (List Char) × Option (List Char) :=
  let front := s.takeWhile fun c => c ≠ '?' ∧ c ≠ '#'
  let set := if kind.isSpecial then specialQuerySet else querySet
  let fragmentOf (s : List Char) : Option (List Char) :=
    match s with
    | [] => none
    | _ :: rest => some (encode fragmentSet rest)
  match s.drop front.length with
  | '?' :: rest =>
    let query := rest.takeWhile (· ≠ '#')
    (front, some (encode set query), fragmentOf (rest.drop query.length))
  | rest => (front, none, fragmentOf rest)

/-! ### Addresses -/

def pathAfter (kind : SchemeKind) (s : List Char) : List Char :=
  if kind.isSpecial then
    match s with
    | c :: rest => withSegments kind ['/'] [] (if kind.isSlash c then rest else c :: rest)
    | [] => ['/']
  else
    match s with
    | [] => []
    | c :: rest => withSegments kind (if c = '/' then [] else ['/']) [] (c :: rest)

def afterSlashes? (kind : SchemeKind) (scheme s : List Char) : Option Url := do
  let ((username, password), s) ← credentials? kind s
  let hostText := s.take (hostLength kind false s)
  let rest := s.drop hostText.length
  let host ←
    if kind.isSpecial then
      if hostText.isEmpty then none else (Host.ofSpecial? hostText).map some
    else if hostText.isEmpty then
      if rest.head? = some ':' then none else some none
    else (Host.ofOther? hostText).map some
  let (port, rest) ← port? scheme rest
  let a : Authority := ⟨username, password, host, port⟩
  if a.host.isNone && a.hasCredentials then none
  let (front, query, fragment) := cutQuery kind rest
  return ⟨scheme, some a, false, pathAfter kind front, query, fragment⟩

def afterOther? (scheme s : List Char) : Option Url :=
  match s with
  | '/' :: '/' :: rest => afterSlashes? .other scheme rest
  | '/' :: rest =>
    let (front, query, fragment) := cutQuery .other rest
    let path := withSegments .other ['/'] [] front
    some ⟨scheme, none, ['/', '/'].isPrefixOf path, path, query, fragment⟩
  | s =>
    let (front, query, fragment) := cutQuery .other s
    some ⟨scheme, none, false, encode controlSet front, query, fragment⟩

def fileWithoutHost (path : List Char) (query fragment : Option (List Char)) : Url :=
  ⟨['f', 'i', 'l', 'e'], some ⟨[], [], none, none⟩, false, withOneSlash path, query, fragment⟩

/-- Reads what stands after the two slashes of a file address. A drive letter is no host, and takes
the place of one. -/
def fileAfterSlashes? (s : List Char) : Option Url := do
  let (front, query, fragment) := cutQuery .file s
  let hostText := front.takeWhile (!SchemeKind.file.isSlash ·)
  if isDrive hostText then
    return fileWithoutHost (withSegments .file ['/'] [] front) query fragment
  if hostText.isEmpty then return fileWithoutHost (withSegments .file [] [] front) query fragment
  let rest := front.drop hostText.length
  match ← Host.ofSpecial? hostText with
  | .domain ['l', 'o', 'c', 'a', 'l', 'h', 'o', 's', 't'] =>
    return fileWithoutHost (withSegments .file [] [] rest) query fragment
  | host =>
    let path := pathAfter .file rest
    return {
      fileWithoutHost path query fragment with
      authority := some ⟨[], [], if hasDrive path then none else some host, none⟩ }

def afterFile? (s : List Char) : Option Url :=
  match s with
  | c :: d :: rest =>
    if SchemeKind.file.isSlash c ∧ SchemeKind.file.isSlash d then fileAfterSlashes? rest
    else some (fileFrom (if SchemeKind.file.isSlash c then [] else ['/']) (c :: d :: rest))
  | s => some (fileFrom ['/'] s)
where
  fileFrom (start s : List Char) : Url :=
    let (front, query, fragment) := cutQuery .file s
    fileWithoutHost (withSegments .file start [] front) query fragment

end Url

def Url.ofText? (s : List Char) : Option Url :=
  match scheme? (cleaned s) with
  | none => none
  | some (scheme, rest) =>
    match SchemeKind.ofScheme scheme with
    | .file => afterFile? rest
    | .web =>
      afterSlashes? .web scheme (rest.dropWhile SchemeKind.web.isSlash)
    | .other => afterOther? scheme rest

end ScriptPress
