import ScriptPress.Prompt.Question
import ScriptPress.Service.Exchange
import ScriptPress.Source

/-!
# Runs

What the program does with the world, as a tree: each node is one thing that it does or asks for,
and goes on with what comes back. `Run.play` follows the tree in a given world and tells what
happened; nothing else about a run can be observed.
-/
namespace ScriptPress

/-- A line that tells the user what goes on. It is no part of the result. -/
inductive Note where
  | status (text : String)
  | warning (text : String)
  | intro (title : String)
  | info (text : String)
  | caution (text : String)
  | finished (text : String)
  | outro (text : String)
  | cursorShown
  deriving DecidableEq, Repr

def Note.text : Note → String
  | .status text => text ++ "\n"
  | .warning text => "Warning: " ++ text ++ "\n"
  | .intro title => "T  " ++ title ++ "\n|\n"
  | .info text => "•  " ++ text ++ "\n|  \n"
  | .caution text => "!  " ++ text ++ "\n|  \n"
  | .finished text => "o  " ++ text ++ "\n|  \n"
  | .outro text => "—  " ++ text ++ "\n"
  | .cursorShown => "\x1b[?25h"

/-- Why a question has no answer. -/
inductive NoAnswer where
  | noTerminal
  | interrupted
  deriving DecidableEq, Repr

def NoAnswer.report : NoAnswer → Report
  | .noTerminal => .plain "not connected"
  | .interrupted => .plain "operation interrupted"

/-- What the program does with the world. -/
inductive Run (α : Type) where
  | done (result : α)
  | fail (report : Report)
  | readFile (path : String) (next : FileContent → Run α)
  | readInput (next : List UInt8 → Run α)
  | send (e : Service.Exchange) (next : Service.Reply → Run α)
  | ask (q : Prompt.Question) (next : Except NoAnswer q.Answer → Run α)
  | note (n : Note) (next : Run α)
  | writeFile (path text : String) (next : Except FileFault Unit → Run α)
  | print (text : String) (next : Run α)

namespace Run

variable {α β : Type}

def bind : Run α → (α → Run β) → Run β
  | .done a, f => f a
  | .fail r, _ => .fail r
  | .readFile path next, f => .readFile path fun x => (next x).bind f
  | .readInput next, f => .readInput fun x => (next x).bind f
  | .send e next, f => .send e fun x => (next x).bind f
  | .ask q next, f => .ask q fun x => (next x).bind f
  | .note n next, f => .note n (next.bind f)
  | .writeFile path text next, f => .writeFile path text fun x => (next x).bind f
  | .print text next, f => .print text (next.bind f)

instance : Monad Run where
  pure := .done
  bind := bind

theorem done_bind (a : α) (f : α → Run β) : (Run.done a >>= f) = f a := rfl

theorem pure_bind (a : α) (f : α → Run β) : ((pure a : Run α) >>= f) = f a := rfl

theorem fail_bind (r : Report) (f : α → Run β) : (Run.fail r >>= f) = .fail r := rfl

theorem bind_assoc {γ : Type} (m : Run α) (f : α → Run β) (g : β → Run γ) :
    ((m >>= f) >>= g) = (m >>= fun a => f a >>= g) := by
  show (m.bind f).bind g = m.bind fun a => (f a).bind g
  induction m with
  | done a => rfl
  | fail r => rfl
  | readFile path next ih => exact congrArg (Run.readFile path) (funext ih)
  | readInput next ih => exact congrArg Run.readInput (funext ih)
  | send e next ih => exact congrArg (Run.send e) (funext ih)
  | ask q next ih => exact congrArg (Run.ask q) (funext ih)
  | note n next ih => exact congrArg (Run.note n) ih
  | writeFile path text next ih => exact congrArg (Run.writeFile path text) (funext ih)
  | print text next ih => exact congrArg (Run.print text) ih

/-! ### Steps -/

def ofReport : Except Report α → Run α
  | .ok a => .done a
  | .error r => .fail r

def ofFault : Except Fault α → Run α
  | .ok a => .done a
  | .error f => .fail (.ofFault f)

def tell (n : Note) : Run Unit := .note n (.done ())

def printLine (text : String) : Run Unit := .print (text ++ "\n") (.done ())

/-- The answer to a question; without one the run fails. -/
def answer (q : Prompt.Question) : Run q.Answer :=
  .ask q fun
    | .ok a => .done a
    | .error e => .fail e.report

def source (path : String) : Run String :=
  if Source.isStandardInput path then .readInput fun bytes => ofReport (Source.ofInput bytes)
  else .readFile path fun content => ofReport (content.sourceAt path)

def write (path text : String) : Run Unit :=
  .writeFile path text fun
    | .ok () => .done ()
    | .error f => .fail (f.whileWriting path)

/-- Posts a payload, where it can be posted to, and returns the result of the service. -/
def post (action : Service.Action) (address : Url) (payload : List Char) :
    Run (Except Fault String) :=
  if Service.canPost address then
    .send ⟨address, payload⟩ fun reply => .done (reply.outcome action address)
  else .done (.error (Service.unsent address))

def endingWith (n : Note) : Run α → Run α
  | .done a => .note n (.done a)
  | .fail r => .note n (.fail r)
  | .readFile path next => .readFile path fun x => (next x).endingWith n
  | .readInput next => .readInput fun x => (next x).endingWith n
  | .send e next => .send e fun x => (next x).endingWith n
  | .ask q next => .ask q fun x => (next x).endingWith n
  | .note m next => .note m (next.endingWith n)
  | .writeFile path text next => .writeFile path text fun x => (next x).endingWith n
  | .print text next => .print text (next.endingWith n)

end Run

/-! ### Worlds -/

/-- What a run finds. What it writes it does not read again, so the world stays as it is. -/
structure World where
  file : String → FileContent
  /-- Why a file cannot be written. -/
  refusal? : String → Option FileFault
  service : Service.Exchange → Service.Reply

/-- What a run uses up: the standard input, and the keys that are typed if there is a terminal. -/
structure Supply where
  input : List UInt8
  keys? : Option (List Prompt.Key)

/-- What happens in a run. -/
inductive Event where
  | noted (n : Note)
  | printed (text : String)
  | wrote (path text : String)
  | sent (e : Service.Exchange) (reply : Service.Reply)
  deriving DecidableEq, Repr

/-- How a run ends, and what happened in it, in order. -/
structure Story (α : Type) where
  result : Except Report α
  events : List Event

namespace Story

variable {α : Type}

def after (s : Story α) (e : Event) : Story α := ⟨s.result, e :: s.events⟩

def output (s : Story α) : String :=
  String.join (s.events.map fun
    | .printed text => text
    | _ => "")

def told (s : Story α) : String :=
  String.join (s.events.map fun
    | .noted n => n.text
    | _ => "") ++
  match s.result with
  | .ok _ => ""
  | .error r => r.text

def written (s : Story α) : List (String × String) :=
  s.events.filterMap fun
    | .wrote path text => some (path, text)
    | _ => none

def exchanges (s : Story α) : List (Service.Exchange × Service.Reply) :=
  s.events.filterMap fun
    | .sent e reply => some (e, reply)
    | _ => none

end Story

def Supply.answer (s : Supply) (q : Prompt.Question) : Except NoAnswer q.Answer × Supply :=
  match s.keys? with
  | none => (.error .noTerminal, s)
  | some keys =>
    match q.answer? keys with
    | none => (.error .interrupted, { s with keys? := some [] })
    | some (a, rest) => (.ok a, { s with keys? := some rest })

def Run.play {α : Type} (w : World) : Supply → Run α → Story α
  | _, .done a => ⟨.ok a, []⟩
  | _, .fail r => ⟨.error r, []⟩
  | s, .readFile path next => play w s (next (w.file path))
  | s, .readInput next => play w { s with input := [] } (next s.input)
  | s, .send e next => (play w s (next (w.service e))).after (.sent e (w.service e))
  | s, .ask q next => play w (s.answer q).2 (next (s.answer q).1)
  | s, .note n next => (play w s next).after (.noted n)
  | s, .writeFile path text next =>
    match w.refusal? path with
    | some f => play w s (next (.error f))
    | none => (play w s (next (.ok ()))).after (.wrote path text)
  | s, .print text next => (play w s next).after (.printed text)

end ScriptPress
