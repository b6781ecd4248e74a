import ScriptPress.Report
import ScriptPress.Text.Ending
import ScriptPress.Text.Split
import ScriptPress.Text.Utf8

/-!
# Source files

A body or an example is read from a file, or from the standard input where the path is `-`. It has
to be text, and the line breaks at its end are dropped. Paths are compared name by name, so slashes
and single dots behind the `-` make no difference.
-/
namespace ScriptPress

inductive FileFault where
  /-- The system refuses, for a reason with a number. -/
  | system (reason : String) (number : Nat)
  /-- The bytes are no text. -/
  | noText
  deriving DecidableEq, Repr

namespace FileFault

def missing : FileFault := .system "No such file or directory" 2

def notDirectory : FileFault := .system "Not a directory" 20

def isDirectory : FileFault := .system "Is a directory" 21

def message : FileFault → String
  | .system reason number => reason ++ " (os error " ++ toString number ++ ")"
  | .noText => "stream did not contain valid UTF-8"

def whileReading (f : FileFault) (path : String) : Report :=
  ⟨"Failed to read " ++ path, [f.message]⟩

def whileWriting (f : FileFault) (path : String) : Report :=
  ⟨"Failed to write " ++ path, [f.message]⟩

end FileFault

abbrev FileContent := Except FileFault (List UInt8)

namespace FileContent

def text (content : FileContent) : Except FileFault String := do
  match Text.ofUtf8? (← content) with
  | some s => return s
  | none => throw .noText

def textAt (content : FileContent) (path : String) : Except Report String :=
  match content.text with
  | .ok s => .ok s
  | .error f => .error (f.whileReading path)

def sourceAt (content : FileContent) (path : String) : Except Report String :=
  Text.withoutLineEnds <$> content.textAt path

end FileContent

namespace Source

def isStandardInput (path : String) : Bool :=
  match Text.splitOn '/' path.toList with
  | name :: rest => name == ['-'] && rest.all fun part => part == [] || part == ['.']
  | [] => false

example : isStandardInput "-" = true ∧ isStandardInput "-//." = true ∧
    isStandardInput "./-" = false ∧ isStandardInput "-/.." = false := by decide

def ofInput (bytes : List UInt8) : Except Report String :=
  match Text.ofUtf8? bytes with
  | some s => .ok (Text.withoutLineEnds s)
  | none => .error ⟨"Failed to read from stdin", [FileFault.noText.message]⟩

end Source
end ScriptPress
