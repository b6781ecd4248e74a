/-!
# Arguments

The options of a command, and how they are written: by a long name or a letter, with a value in the
same argument or in the next one. A value of its own must not look like an option; letters without
values can be joined. Nothing but options is taken.
-/
namespace ScriptPress.Cli

/-- What an option takes; a path is not empty. -/
inductive Takes where
  | nothing
  | text
  | path
  deriving DecidableEq, Repr

structure OptionSpec where
  name : String
  letter : Option Char
  takes : Takes
  repeats : Bool
  deriving DecidableEq, Repr

abbrev Given := List (String × String)

inductive Reading where
  | given (values : Given)
  | help
  | wrong
  deriving DecidableEq, Repr

namespace Given

def has (g : Given) (name : String) : Bool := g.any fun v => v.1 == name

def value? (g : Given) (name : String) : Option String := g.lookup name

def values (g : Given) (name : String) : List String :=
  g.filterMap fun v => if v.1 == name then some v.2 else none

def add? (g : Given) (o : OptionSpec) (value : String) : Option Given :=
  if (!o.repeats && g.has o.name) || (o.takes == .path && value == "") then none
  else some (g ++ [(o.name, value)])

end Given

/-! ### Single arguments -/

/-- What one argument says: values, an option that still waits for its value, or something that
settles the reading at once. -/
inductive Word where
  | given (values : Given)
  | waiting (values : Given) (o : OptionSpec)
  | help
  | wrong

def helpName : String := "help"

/-- Reads a long name with the value after an equals sign, if there is one. -/
def longWord (specs : List OptionSpec) (g : Given) (text : List Char) : Word :=
  let name := text.takeWhile (· ≠ '=')
  let value? := match text.drop name.length with
    | _ :: value => some (String.ofList value)
    | [] => none
  if String.ofList name = helpName then (if value?.isSome then .wrong else .help)
  else
    match specs.find? fun o => o.name == String.ofList name with
    | none => .wrong
    | some o =>
      match o.takes == .nothing, value? with
      | true, some _ => .wrong
      | true, none => ((g.add? o "").map Word.given).getD .wrong
      | false, some value => ((g.add? o value).map Word.given).getD .wrong
      | false, none => .waiting g o

/-- Reads joined letters; what follows a letter with a value is the value, after an equals sign if
there is one. -/
def letterWord (specs : List OptionSpec) (g : Given) : List Char → Word
  | [] => .given g
  | c :: rest =>
    if c = 'h' then .help
    else
      match specs.find? fun o => o.letter == some c with
      | none => .wrong
      | some o =>
        if o.takes = .nothing then
          match g.add? o "" with
          | some g => letterWord specs g rest
          | none => .wrong
        else
          match rest with
          | [] => .waiting g o
          | '=' :: value => ((g.add? o (String.ofList value)).map Word.given).getD .wrong
          | value => ((g.add? o (String.ofList value)).map Word.given).getD .wrong

def looksLikeOption (arg : String) : Bool :=
  match arg.toList with
  | '-' :: _ :: _ => true
  | _ => false

def word (specs : List OptionSpec) (g : Given) (arg : String) : Word :=
  match arg.toList with
  | '-' :: '-' :: text => longWord specs g text
  | '-' :: c :: text => letterWord specs g (c :: text)
  | _ => .wrong

/-! ### All arguments -/

/-- Reads the arguments of a command. After two dashes nothing may follow. -/
def readArguments (specs : List OptionSpec) : Given → List String → Reading
  | g, [] => .given g
  | g, arg :: rest =>
    if arg = "--" then (if rest.isEmpty then .given g else .wrong)
    else
      match word specs g arg with
      | .wrong => .wrong
      | .help => .help
      | .given g => readArguments specs g rest
      | .waiting g o =>
        match rest with
        | [] => .wrong
        | value :: rest =>
          if looksLikeOption value then .wrong
          else
            match g.add? o value with
            | some g => readArguments specs g rest
            | none => .wrong

end ScriptPress.Cli
