import ScriptPress.Cli.Program

/-!
# The command line

Performs the run of the arguments. The service is out of reach of this program, so every exchange
ends as if the connection was refused. A question is shown with its title, and a line that is read
counts as its keys.
-/
namespace ScriptPress

def systemFault : IO.Error → FileFault
  | .noFileOrDirectory _ _ _ => .missing
  | .noSuchThing _ code reason => .system reason code.toNat
  | .permissionDenied _ code reason => .system reason code.toNat
  | .inappropriateType _ code reason => .system reason code.toNat
  | .resourceExhausted _ code reason => .system reason code.toNat
  | .alreadyExists _ code reason => .system reason code.toNat
  | .otherError code reason => .system reason code.toNat
  | e => .system (toString e) 5

def performRead (path : String) : IO FileContent := do
  try
    let bytes ← IO.FS.readBinFile path
    return .ok bytes.data.toList
  catch e => return .error (systemFault e)

def performWrite (path text : String) : IO (Except FileFault Unit) := do
  try
    IO.FS.writeFile path text
    return .ok ()
  catch e => return .error (systemFault e)

def performInput : IO (List UInt8) := do
  return (← (← IO.getStdin).readBinToEnd).data.toList

def questionText : Prompt.Question → String
  | .choice title items => title ++ "\n" ++ "\n".intercalate items ++ "\n"
  | .entry e => e.title ++ (if e.initial = "" then "" else " [" ++ e.initial ++ "]") ++ "\n"
  | .confirmation title initial => title ++ (if initial then " [Y/n]" else " [y/N]") ++ "\n"

/-- Reads lines until they answer a question, as long as there are lines. -/
partial def performAnswer (q : Prompt.Question) (typed : List Prompt.Key) :
    IO (Except NoAnswer q.Answer) := do
  let line ← (← IO.getStdin).getLine
  if line.isEmpty then return .error .interrupted
  let keys := typed ++ line.toList.filterMap Prompt.Key.ofChar?
  match q.answer? keys with
  | some (a, _) => return .ok a
  | none => if keys.contains .escape then return .error .interrupted else performAnswer q keys

def performAsk (q : Prompt.Question) : IO (Except NoAnswer q.Answer) := do
  if ← (← IO.getStdin).isTty then
    IO.eprint (questionText q)
    performAnswer q []
  else return .error .noTerminal

def perform {α : Type} : Run α → IO (Except Report α)
  | .done a => return .ok a
  | .fail r => do
    IO.eprint r.text
    return .error r
  | .readFile path next => do perform (next (← performRead path))
  | .readInput next => do perform (next (← performInput))
  | .send _ next => perform (next .refused)
  | .ask q next => do perform (next (← performAsk q))
  | .note n next => do
    IO.eprint n.text
    perform next
  | .writeFile path text next => do perform (next (← performWrite path text))
  | .print text next => do
    IO.print text
    perform next

end ScriptPress

open ScriptPress in
def main (args : List String) : IO UInt32 := do
  let environment ← IO.getEnv Cli.endpointVariable
  match (Cli.Invocation.ofArguments environment args).run? UInt64.size with
  | none =>
    IO.eprintln Cli.helpText
    return Cli.Status.misuse.code.toUInt32
  | some run =>
    let result ← perform run
    return (Cli.Status.ofResult result).code.toUInt32
