import ScriptPress.Service.Endpoint
import ScriptPress.Service.Payload

/-!
# Exchanges with the service

A payload is posted to the address of an action, and what comes back is an answer or a fault. Only
an address of the web can be posted to; to any other nothing is sent.
-/
namespace ScriptPress.Service

structure Exchange where
  address : Url
  payload : List Char
  deriving DecidableEq, Repr

/-- What comes back: nothing, or a status and some bytes. -/
inductive Reply where
  | refused
  | answered (status : Nat) (body : List UInt8)
  deriving DecidableEq, Repr

/-! ### Addresses -/

/-- An address as it is posted to: the credentials go elsewhere. They stay where they are if the
user name is no text, or if there is no user name and the password is no text. -/
def shownAddress (u : Url) : Url :=
  match u.authority with
  | none => u
  | some a =>
    let name := Url.decoded? a.username
    let password := Url.decoded? a.password
    if name.isNone || (a.username.isEmpty && password.isNone) then u
    else { u with authority := some a.withoutCredentials }

/-- The characters of a host that a request line cannot hold. -/
def isUnsendable (c : Char) : Bool := c == '"' || c == '\x60' || c == '\x7b' || c == '\x7d'

/-- How many bytes of an address a request line holds at most. -/
def longestAddress : Nat := 65534

/-- Whether a request can be made to an address. An address that can be read may still name a host
that no request can name, or be too long. -/
def canPost (u : Url) : Bool :=
  (u.scheme == "http".toList || u.scheme == "https".toList) &&
    (u.authority.bind Url.Authority.host).any (fun host => !host.text.any isUnsendable) &&
    decide ((shownAddress u).text.length ≤ longestAddress)

/-! ### Statuses -/

def statusReason? (status : Nat) : Option String :=
  [(100, "Continue"), (101, "Switching Protocols"), (102, "Processing"), (200, "OK"),
    (201, "Created"), (202, "Accepted"), (203, "Non Authoritative Information"),
    (204, "No Content"), (205, "Reset Content"), (206, "Partial Content"), (207, "Multi-Status"),
    (208, "Already Reported"), (226, "IM Used"), (300, "Multiple Choices"),
    (301, "Moved Permanently"), (302, "Found"), (303, "See Other"), (304, "Not Modified"),
    (305, "Use Proxy"), (307, "Temporary Redirect"), (308, "Permanent Redirect"),
    (400, "Bad Request"), (401, "Unauthorized"), (402, "Payment Required"), (403, "Forbidden"),
    (404, "Not Found"), (405, "Method Not Allowed"), (406, "Not Acceptable"),
    (407, "Proxy Authentication Required"), (408, "Request Timeout"), (409, "Conflict"),
    (410, "Gone"), (411, "Length Required"), (412, "Precondition Failed"),
    (413, "Payload Too Large"), (414, "URI Too Long"), (415, "Unsupported Media Type"),
    (416, "Range Not Satisfiable"), (417, "Expectation Failed"), (418, "I'm a teapot"),
    (421, "Misdirected Request"), (422, "Unprocessable Entity"), (423, "Locked"),
    (424, "Failed Dependency"), (426, "Upgrade Required"), (428, "Precondition Required"),
    (429, "Too Many Requests"), (431, "Request Header Fields Too Large"),
    (451, "Unavailable For Legal Reasons"), (500, "Internal Server Error"),
    (501, "Not Implemented"), (502, "Bad Gateway"), (503, "Service Unavailable"),
    (504, "Gateway Timeout"), (505, "HTTP Version Not Supported"),
    (506, "Variant Also Negotiates"), (507, "Insufficient Storage"), (508, "Loop Detected"),
    (510, "Not Extended"), (511, "Network Authentication Required")].lookup status

def statusText (status : Nat) : String :=
  toString status ++ " " ++ (statusReason? status).getD "<unknown status code>"

def isSuccess (status : Nat) : Bool := 200 ≤ status && status < 300

/-! ### Outcomes -/

def addressText (u : Url) : String := String.ofList u.text

def forAddress (u : Url) : String := " for url (" ++ addressText (shownAddress u) ++ ")"

def unsent (u : Url) : Fault :=
  .provider ("request to " ++ addressText u ++ " failed: builder error" ++ forAddress u)

def Reply.outcome (action : Action) (u : Url) : Reply → Except Fault String
  | .refused =>
    .error (.provider
      ("request to " ++ addressText u ++ " failed: error sending request" ++ forAddress u))
  | .answered status body =>
    if isSuccess status then
      match Answer.ofBytes? action body with
      | some answer => answer.outcome
      | none =>
        .error (.provider
          ("invalid answer from " ++ addressText u ++ ": error decoding response body" ++
            forAddress u))
    else .error (.provider (addressText u ++ " answered HTTP " ++ statusText status))

def bodyOrEmpty : Except Fault String → String
  | .ok body => body
  | .error _ => ""

end ScriptPress.Service
