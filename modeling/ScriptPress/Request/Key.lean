import ScriptPress.Request

/-!
# The fields of a request file

Each field of a request has a name, and all but two have a second spelling. What a file gives is
collected as a draft; a draft that gives a language is a request.
-/
namespace ScriptPress.Request

inductive Key where
  | language
  | extension
  | filePattern
  | runtimeVersion
  | dependencyVersion
  | body
  deriving DecidableEq, Repr

namespace Key

def all : List Key :=
  [.language, .extension, .filePattern, .runtimeVersion, .dependencyVersion, .body]

def name : Key → String
  | .language => "language"
  | .extension => "extension"
  | .filePattern => "file_pattern"
  | .runtimeVersion => "runtime_version"
  | .dependencyVersion => "dependency_version"
  | .body => "body"

def alias? : Key → Option String
  | .language => some "languageId"
  | .extension => none
  | .filePattern => some "filePattern"
  | .runtimeVersion => some "runtimeVersionRaw"
  | .dependencyVersion => some "dependencyVersionRaw"
  | .body => none

def spellings (k : Key) : List String := k.name :: k.alias?.toList

def ofText? (text : List Char) : Option Key :=
  all.find? fun k => k.spellings.contains (String.ofList text)

def isOptional : Key → Bool
  | .extension | .filePattern => true
  | _ => false

theorem mem_all (k : Key) : k ∈ all := by cases k <;> simp [all]

end Key

/-- The fields that were given, in order. A field that may be given as nothing has no text then. -/
structure Draft where
  given : List (Key × Option String)
  deriving DecidableEq, Repr

namespace Draft

def has (d : Draft) (k : Key) : Bool := d.given.any fun g => g.1 == k

def add (d : Draft) (k : Key) (text : Option String) : Draft := ⟨d.given ++ [(k, text)]⟩

def text? (d : Draft) (k : Key) : Option String :=
  (d.given.find? fun g => g.1 == k).bind Prod.snd

/-- The text of a field that is empty when it was not given. -/
def textOr (d : Draft) (k : Key) : String := (d.text? k).getD ""

def request? (d : Draft) : Option Request :=
  if d.has .language then
    some ⟨d.textOr .language, d.text? .extension, d.text? .filePattern, d.textOr .runtimeVersion,
      d.textOr .dependencyVersion, d.textOr .body⟩
  else none

theorem has_add (d : Draft) (k j : Key) (text : Option String) :
    (d.add k text).has j = (d.has j || k == j) := by
  simp [has, add]

end Draft
end ScriptPress.Request
