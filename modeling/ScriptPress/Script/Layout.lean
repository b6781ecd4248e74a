import ScriptPress.Requirement
import ScriptPress.Script.Frame

/-!
# The layout of a script

A script is a list of lines: what opens it in its family, the runtime guard and the dependency
guard where there are any, the line that opens the block of files, the lines of the body four
spaces in, and two closing lines. The lines are joined by LF, with none after the last.
-/
namespace ScriptPress.Script

/-- What a script is made of. -/
structure Parts where
  filePattern : String
  runtime : Option Requirement
  dependency : Option Requirement
  body : String
  deriving DecidableEq, Repr

/-! ### The lines -/

def runtimeLine (f : Frame) (r : Requirement) : Line :=
  f.runtime.line [literal f.quote r.spec.toList]

def dependencyLine (f : Frame) (r : Requirement) : Line :=
  f.dependency.line [literal f.quote r.subject.toList, literal f.quote r.spec.toList]

/-- The line that opens the block of files; the pattern is in single quotes in every family. -/
def filesLine (f : Frame) (pattern : String) : Line :=
  f.files.line [literal '\'' pattern.toList]

def bodyIndent : Line := [' ', ' ', ' ', ' ']

/-- The lines of a body inside the block of files; an empty body has none. -/
def bodyLines (body : String) : List Line :=
  match body.toList with
  | [] => []
  | c :: s => (Text.splitOn '\n' (c :: s)).map (bodyIndent ++ ·)

def openingLines (f : Frame) (parts : Parts) : List Line :=
  f.header.map String.toList ++ (parts.runtime.map (runtimeLine f)).toList ++
    (parts.dependency.map (dependencyLine f)).toList ++ [filesLine f parts.filePattern]

def lines (f : Frame) (parts : Parts) : List Line :=
  openingLines f parts ++ bodyLines parts.body ++ f.closing.map String.toList

def combine (family : Family) (parts : Parts) : String :=
  String.ofList (Text.joinWith ['\n'] (lines (Frame.ofFamily family) parts))

end ScriptPress.Script
