import ScriptPress.Fault

/-!
# Reports

A failure as it is reported to the user: what failed, and the causes behind it, the nearest first.
-/
namespace ScriptPress

/-- What failed, and the causes behind it, the nearest first. -/
structure Report where
  message : String
  causes : List String
  deriving DecidableEq, Repr

namespace Report

def plain (message : String) : Report := ⟨message, []⟩

def ofFault (f : Fault) : Report := plain f.message

/-- The report that something failed because of this one. -/
def because (r : Report) (message : String) : Report := ⟨message, r.message :: r.causes⟩

def rightAligned (width : Nat) (s : String) : String :=
  "".pushn ' ' (width - s.length) ++ s

def numbered (n : Nat) : List String → String
  | [] => ""
  | cause :: rest => "\n" ++ rightAligned 5 (toString n) ++ ": " ++ cause ++ numbered (n + 1) rest

/-- The text of a report. A cause that is alone has no number. -/
def text (r : Report) : String :=
  "Error: " ++ r.message ++
    (match r.causes with
      | [] => ""
      | [cause] => "\n\nCaused by:\n    " ++ cause
      | causes => "\n\nCaused by:" ++ numbered 0 causes) ++ "\n"

end Report
end ScriptPress
