import ScriptPress.Request.Key
import ScriptPress.Yaml.Kind

/-!
# Requests in YAML

A request file is a mapping of field names to scalars. A field takes any scalar with the text it is
written with; only the two optional fields know nothing. Unknown names are passed over, and no
field may be given twice, whichever of its spellings is used. The entries are read in order, so the
first one that is wrong is reported, and a fault of the text only when the reading comes to it.
-/
namespace ScriptPress.Yaml

/-! ### Labels -/

def Node.label? : Node → Option Nat
  | .scalar _ label _ _ _ => label
  | .sequence _ label _ _ => label
  | .mapping _ label _ _ => label
  | .alias _ _ | .lost => none

mutual

def Node.labelled (n : Node) : List (Nat × Node) :=
  (n.label?.map fun l => (l, n)).toList ++
    match n with
    | .sequence _ _ items _ => labelledItems items
    | .mapping _ _ entries _ => labelledEntries entries
    | _ => []

def labelledItems : List Node → List (Nat × Node)
  | [] => []
  | n :: rest => n.labelled ++ labelledItems rest

def labelledEntries : List (Node × Node) → List (Nat × Node)
  | [] => []
  | (key, value) :: rest => key.labelled ++ value.labelled ++ labelledEntries rest

end

/-- The node that an alias stands for, the last one with its label; any other node is itself. -/
def Node.resolved (labels : List (Nat × Node)) : Node → Node
  | .alias mark label =>
    match labels.reverse.find? fun l => l.1 == label with
    | some (_, n) => n
    | none => .alias mark label
  | n => n

mutual

def Node.isComplete : Node → Bool
  | .sequence _ _ items closed => closed && itemsComplete items
  | .mapping _ _ entries closed => closed && entriesComplete entries
  | .lost => false
  | _ => true

def itemsComplete : List Node → Bool
  | [] => true
  | n :: rest => n.isComplete && itemsComplete rest

def entriesComplete : List (Node × Node) → Bool
  | [] => true
  | (key, value) :: rest => key.isComplete && value.isComplete && entriesComplete rest

end
end ScriptPress.Yaml

namespace ScriptPress.Request

open Yaml (Node Mark Kind Demand Style)

inductive Expected where
  | request
  | fieldName
  | text
  deriving DecidableEq, Repr

def Expected.name : Expected → String
  | .request => "struct SnippetRequest"
  | .fieldName => "field identifier"
  | .text => "a string"

inductive Reason where
  | missing (key : Key)
  | duplicate (key : Key)
  | wrongKind (found : Kind) (expected : Expected)
  | wrongText (text : List Char) (demand : Demand)
  deriving DecidableEq, Repr

def Reason.message : Reason → String
  | .missing key => String.join ["missing field `", key.name, "`"]
  | .duplicate key => String.join ["duplicate field `", key.name, "`"]
  | .wrongKind found expected =>
    String.join ["invalid type: ", found.name, ", expected ", expected.name]
  | .wrongText text demand =>
    String.join ["invalid value: string ", String.ofList (Text.shown text), ", expected ",
      demand.name]

inductive DocumentFault where
  /-- The tree is no request; `field` is the name of the field it went wrong in. -/
  | misfit (reason : Reason) (field : Option (List Char)) (mark : Mark)
  /-- The text goes wrong. -/
  | malformed (fault : Yaml.Fault)
  /-- Another document follows. -/
  | several
  deriving DecidableEq, Repr

/-- The wording of a fault, with its place unless that is the start of the text. -/
def DocumentFault.message : DocumentFault → String
  | .misfit reason field mark =>
    (match field with
      | some name => String.ofList name ++ ": "
      | none => "") ++ reason.message ++ mark.at
  | .malformed fault => fault.message
  | .several => "deserializing from YAML containing more than one document is not supported"

/-- What the reading of a tree needs to know: the labelled nodes, where the mapping starts, and
what is reported when the reading comes to the end of what was written. -/
structure Context where
  labels : List (Nat × Node)
  start : Mark
  ending : DocumentFault

def textOf (c : Context) (name : List Char) (n : Node) : Except DocumentFault String :=
  match n.resolved c.labels with
  | .scalar _ _ _ text _ => .ok (String.ofList text)
  | .sequence mark _ _ _ => .error (.misfit (.wrongKind .sequence .text) (some name) mark)
  | .mapping mark _ _ _ => .error (.misfit (.wrongKind .mapping .text) (some name) mark)
  | .alias _ _ | .lost => .error c.ending

def isNothing (tag : Option (List UInt8)) (text : List Char) (style : Style) :
    Except Reason Bool :=
  match style, tag with
  | .plain, none => .ok (text.isEmpty || Yaml.isNull text)
  | .plain, some tag =>
    if Demand.ofTag? tag = some .null then
      if Yaml.isNull text then .ok true else .error (.wrongText text .null)
    else .ok false
  | _, _ => .ok false

def textOf? (c : Context) (name : List Char) (n : Node) : Except DocumentFault (Option String) :=
  match n.resolved c.labels with
  | .scalar _ _ tag text style =>
    match isNothing tag text style with
    | .error reason => .error (.misfit reason none c.start)
    | .ok true => .ok none
    | .ok false => .ok (some (String.ofList text))
  | n => some <$> textOf c name n

def valueOf (c : Context) (k : Key) (name : List Char) (n : Node) :
    Except DocumentFault (Option String) :=
  if k.isOptional then textOf? c name n else some <$> textOf c name n

def keyOf (c : Context) (n : Node) : Except DocumentFault (List Char × List Char) :=
  match n.resolved c.labels with
  | .scalar _ _ _ text _ =>
    match n with
    | .alias _ _ => .ok (text, ['?'])
    | _ => .ok (text, text)
  | .sequence mark _ _ _ => .error (.misfit (.wrongKind .sequence .fieldName) none mark)
  | .mapping mark _ _ _ => .error (.misfit (.wrongKind .mapping .fieldName) none mark)
  | .alias _ _ | .lost => .error c.ending

def withEntry (c : Context) (d : Draft) (entry : Node × Node) : Except DocumentFault Draft := do
  let (text, name) ← keyOf c entry.1
  match Key.ofText? text with
  | none => if entry.2.isComplete then return d else throw c.ending
  | some k =>
    if d.has k then throw (.misfit (.duplicate k) none c.start)
    return d.add k (← valueOf c k name entry.2)

def ofEntries (c : Context) (entries : List (Node × Node)) (closed : Bool) :
    Except DocumentFault Request := do
  let d ← entries.foldlM (withEntry c) ⟨[]⟩
  if !closed then throw c.ending
  match d.request? with
  | some r => return r
  | none => throw (.misfit (.missing .language) none c.start)

def ofNode (ending : DocumentFault) (n : Node) : Except DocumentFault Request :=
  match n with
  | .mapping mark _ entries closed => ofEntries ⟨n.labelled, mark, ending⟩ entries closed
  | .sequence mark _ _ _ => .error (.misfit (.wrongKind .sequence .request) none mark)
  | .scalar mark _ tag text style =>
    if text.isEmpty ∧ style = .plain then .error (.misfit (.missing .language) none mark)
    else
      match Kind.ofScalar tag text style with
      | .ok kind => .error (.misfit (.wrongKind kind .request) none mark)
      | .error demand => .error (.misfit (.wrongText text demand) none mark)
  | .alias _ _ | .lost => .error ending

def ofDocument (d : Yaml.Document) : Except DocumentFault Request := do
  let ending := match d.fault with
    | some fault => .malformed fault
    | none => .several
  let r ← ofNode ending d.root
  if d.fault.isSome || d.more then throw ending
  return r

def ofYaml (text : String) : Except DocumentFault Request := ofDocument (.ofText text.toList)

end ScriptPress.Request
