import ScriptPress.Text.Blank

/-!
# Languages

The supported languages, the two dialect families they belong to, and the spellings by which a
language or a file extension is named. Names are compared without regard to ASCII case and to the
blanks around them; nothing is guessed.
-/
namespace ScriptPress

inductive Family where
  | ruby
  | ecmaScript
  deriving DecidableEq, Repr

def Family.name : Family → String
  | .ruby => "Ruby"
  | .ecmaScript => "ECMAScript"

/-- A language whose sources a script can change. -/
inductive Language where
  | ruby
  | javaScript
  | typeScript
  deriving DecidableEq, Repr

namespace Language

def all : List Language := [.ruby, .javaScript, .typeScript]

/-- The identifier used in request files and in the addresses of the service. -/
def id : Language → String
  | .ruby => "ruby"
  | .javaScript => "javascript"
  | .typeScript => "typescript"

def name : Language → String
  | .ruby => "Ruby"
  | .javaScript => "JavaScript"
  | .typeScript => "TypeScript"

def family : Language → Family
  | .ruby => .ruby
  | .javaScript | .typeScript => .ecmaScript

def extensions : Language → List String
  | .ruby => ["rb"]
  | .javaScript => ["js", "jsx"]
  | .typeScript => ["ts", "tsx"]

def extension : Language → String
  | .ruby => "rb"
  | .javaScript => "js"
  | .typeScript => "ts"

theorem extension_mem (l : Language) : l.extension ∈ l.extensions := by
  cases l <;> simp [extensions, extension]

def runtimeName (l : Language) : String :=
  match l.family with
  | .ruby => "ruby"
  | .ecmaScript => "node"

def dependencyKind (l : Language) : String :=
  match l.family with
  | .ruby => "gem"
  | .ecmaScript => "npm"

/-! ### Spellings -/

/-- A text in ASCII lower case; characters beyond ASCII stay as they are. -/
def folded (s : List Char) : List Char := s.map Char.toLower

/-- The language with this identifier or short identifier, in any ASCII case. -/
def ofId? (text : String) : Option Language :=
  match String.ofList (folded (Text.trim text.toList)) with
  | "ruby" | "rb" => some .ruby
  | "javascript" | "js" => some .javaScript
  | "typescript" | "ts" => some .typeScript
  | _ => none

/-- The extension asked for, without blanks around it and without leading dots. -/
def bareExtension (text : String) : List Char :=
  (Text.trim text.toList).dropWhile (· == '.')

/-- The extension of this language that `text` spells; a blank one is the default. -/
def extension? (l : Language) (text : String) : Option String :=
  match bareExtension text with
  | [] => some l.extension
  | wanted => l.extensions.find? fun ext => folded ext.toList == folded wanted

def defaultPattern (extension : String) : String := "**/*." ++ extension

end Language
end ScriptPress
