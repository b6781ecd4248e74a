import ScriptPress.Request.Document
import ScriptPress.Source

/-!
# Request files

A request file is YAML text, of which JSON text is a part. Whatever is wrong with it is reported
with the path of the file.
-/
namespace ScriptPress.Request

def DocumentFault.report (f : DocumentFault) : Report :=
  ⟨"Failed to parse snippet request", [f.message]⟩

def ofText (text : String) : Except Report Request :=
  match ofYaml text with
  | .ok r => .ok r
  | .error f => .error f.report

def ofFile (path : String) (content : FileContent) : Except Report Request :=
  match content.textAt path with
  | .error report => .error report
  | .ok text =>
    match ofText text with
    | .ok r => .ok r
    | .error report => .error (report.because ("Invalid request in " ++ path))

end ScriptPress.Request
