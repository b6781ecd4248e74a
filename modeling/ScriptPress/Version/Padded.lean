import ScriptPress.Text.Split
import ScriptPress.Version.Release

/-!
# Padded release numbers

Runtimes are often named by one or two numbers. Such a number is filled up with zeros before its
suffix, so that it can be judged as a release number.
-/
namespace ScriptPress.Version

def opensSuffix (c : Char) : Bool := c == '-' || c == '+'

def padPieces : List (List Char) → List (List Char)
  | [] => [['0'], ['0'], ['0']]
  | [major] => [major, ['0'], ['0']]
  | [major, minor] => [major, minor, ['0']]
  | pieces => pieces

/-- The text with missing second and third numbers filled in. -/
def pad (s : List Char) : List Char :=
  Text.joinWith ['.'] (padPieces (Text.splitOn '.' (s.takeWhile (!opensSuffix ·)))) ++
    s.dropWhile (!opensSuffix ·)

def withoutV : List Char → List Char
  | 'v' :: s => s
  | s => s

/-- Whether a text is a release number of one to three numbers, after an optional `v`. -/
def isPaddedRelease (s : List Char) : Bool := isRelease (pad (withoutV s))

end ScriptPress.Version
