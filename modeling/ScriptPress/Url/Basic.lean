import ScriptPress.Url.Host
import ScriptPress.Url.Path

/-!
# Addresses

An absolute address in the parts it is printed from. The parts are kept as they are printed, with
everything encoded that has to be.
-/
namespace ScriptPress

namespace Url

/-- Credentials, host and port. An empty user name or password is none. -/
structure Authority where
  username : List Char
  password : List Char
  host : Option Host
  port : Option Nat
  deriving DecidableEq, Repr

namespace Authority

def hasCredentials (a : Authority) : Bool := !a.username.isEmpty || !a.password.isEmpty

def credentialText (a : Authority) : List Char :=
  if a.hasCredentials then
    a.username ++ (if a.password.isEmpty then [] else ':' :: a.password) ++ ['@']
  else []

def text (a : Authority) : List Char :=
  a.credentialText ++ (a.host.map Host.text).getD [] ++
    match a.port with
    | some n => ':' :: decimalText n
    | none => []

def withoutCredentials (a : Authority) : Authority := { a with username := [], password := [] }

end Authority
end Url

structure Url where
  scheme : List Char
  authority : Option Url.Authority
  /-- Whether `/.` stands before the path, so that two slashes there do not start an authority. -/
  guarded : Bool
  path : List Char
  query : Option (List Char)
  fragment : Option (List Char)
  deriving DecidableEq, Repr

namespace Url

def text (u : Url) : List Char :=
  u.scheme ++ ':' ::
    ((match u.authority with
      | some a => '/' :: '/' :: a.text
      | none => []) ++
    (if u.guarded then ['/', '.'] else []) ++ u.path ++
    (match u.query with
      | some q => '?' :: q
      | none => []) ++
    (match u.fragment with
      | some f => '#' :: f
      | none => []))

def isExtensible (u : Url) : Bool := u.authority.isSome || u.path.head? == some '/'

/-! ### More segments -/

/-- A path without the slash at its end, except the one it starts with. -/
def withoutEndSlash (path : List Char) : List Char :=
  if 1 < path.length ∧ path.getLast? = some '/' then path.dropLast else path

def withPathSegment (path segment : List Char) : List Char :=
  if path.length = 1 then path ++ segment else path ++ '/' :: segment

/-- An address with more segments at the end of its path; an empty last one gives way. -/
def extended (u : Url) (segments : List (List Char)) : Url :=
  { u with path := segments.foldl withPathSegment (withoutEndSlash u.path) }

end Url
end ScriptPress
