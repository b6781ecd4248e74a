import ScriptPress.Cli.Dialogue

/-!
# The program

An invocation as a run, and the status with which it ends.
-/
namespace ScriptPress.Cli

def versionLine : String := "synvert-snippet 0.1.0"

def helpText : String :=
  "\n".intercalate
    ["Assemble runnable Synvert snippets for Ruby, JavaScript and TypeScript",
      "",
      "Usage: synvert-snippet [render|generate|try|prompt|languages] [options]"]

def Command.run (limit : Nat) : Command → Run Unit
  | .render fields sources => Cli.render fields sources
  | .generate fields inputs expected endpoint => Cli.generate fields inputs expected endpoint
  | .trial fields sources source endpoint => Cli.trial fields sources source endpoint
  | .prompt options => dialogue limit options
  | .languages => Cli.languages

inductive Status where
  | success
  | failure
  | misuse
  deriving DecidableEq, Repr

def Status.code : Status → Nat
  | .success => 0
  | .failure => 1
  | .misuse => 2

/-- What an invocation does; arguments that are not understood do nothing. -/
def Invocation.run? (limit : Nat) : Invocation → Option (Run Unit)
  | .command c => some (c.run limit)
  | .version => some (Run.printLine versionLine)
  | .help => some (Run.printLine helpText)
  | .misuse => none

def Status.ofResult {α : Type} : Except Report α → Status
  | .ok _ => .success
  | .error _ => .failure

end ScriptPress.Cli
