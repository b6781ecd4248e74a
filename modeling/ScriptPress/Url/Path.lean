import ScriptPress.Url.Percent

/-!
# Paths

The path of an address is kept as text. It is read segment by segment: a segment of one dot is left
out, and one of two dots takes the segment before it away, except a drive letter of a file address.
-/
namespace ScriptPress.Url

/-- The kinds of schemes: `file`, the others that browsers know, and the rest. -/
inductive SchemeKind where
  | file
  | web
  | other
  deriving DecidableEq, Repr

namespace SchemeKind

def ofScheme (scheme : List Char) : SchemeKind :=
  match String.ofList scheme with
  | "file" => .file
  | "http" | "https" | "ws" | "wss" | "ftp" => .web
  | _ => .other

/-- Whether a scheme is known: its addresses have a path, and a backslash is a slash. -/
def isSpecial : SchemeKind → Bool
  | .other => false
  | _ => true

def isSlash (k : SchemeKind) (c : Char) : Bool := c == '/' || (k.isSpecial && c == '\\')

end SchemeKind

/-! ### Drive letters -/

/-- Whether a text starts with a drive letter that is a segment of its own. -/
def startsWithDrive : List Char → Bool
  | a :: b :: rest =>
    a.isAlpha && (b == ':' || b == '|') &&
      rest.head?.all fun c => c == '/' || c == '\\' || c == '?' || c == '#'
  | _ => false

def isDrive (segment : List Char) : Bool := segment.length == 2 && startsWithDrive segment

/-! ### Dots -/

def lastSegment (path : List Char) : List Char := (path.reverse.takeWhile (· ≠ '/')).reverse

def uptoSlash (path : List Char) : List Char := (path.reverse.dropWhile (· ≠ '/')).reverse

def isDot (segment : List Char) : Bool :=
  [".", "%2e", "%2E"].contains (String.ofList segment)

def isDoubleDot (segment : List Char) : Bool :=
  ["..", "%2e%2e", "%2e%2E", "%2E%2e", "%2E%2E", "%2e.", "%2E.", ".%2e", ".%2E"].contains
    (String.ofList segment)

/-- Whether the slash at the end of a path may go: it is not the first one, and the segment before
it is no drive letter. -/
def lastSlashCanGo (path : List Char) : Bool :=
  let front := path.dropLast
  front.contains '/' && !startsWithDrive ((lastSegment front) ++ ['/'])

def withoutLast (kind : SchemeKind) (path : List Char) : List Char :=
  match path with
  | [] => []
  | _ =>
    let segment := lastSegment path
    if kind = .file ∧ isDrive segment ∧ segment.getLast? = some ':' then path else uptoSlash path

def slashed (path : List Char) : List Char :=
  if path.getLast? = some '/' then path else path ++ ['/']

/-! ### Reading -/

def withSegment (kind : SchemeKind) (path segment : List Char) (ended : Bool) : List Char :=
  if isDoubleDot segment then
    let path := if path.getLast? = some '/' ∧ lastSlashCanGo path then path.dropLast else path
    let path := withoutLast kind path
    if ended then slashed path else path
  else if isDot segment then slashed path
  else
    let segment :=
      if kind = .file ∧ path = ['/'] ∧ isDrive segment then segment.take 1 ++ [':'] else segment
    path ++ segment ++ (if ended then ['/'] else [])

def withSegments (kind : SchemeKind) (path : List Char) : List Char → List Char → List Char
  | segment, [] => withSegment kind path (encode pathSet segment) false
  | segment, c :: rest =>
    if kind.isSlash c then
      withSegments kind (withSegment kind path (encode pathSet segment) true) [] rest
    else withSegments kind path (segment ++ [c]) rest

def hasDrive (path : List Char) : Bool :=
  match path with
  | '/' :: rest => startsWithDrive rest
  | _ => false

def withOneSlash (path : List Char) : List Char := '/' :: path.dropWhile (· == '/')

end ScriptPress.Url
