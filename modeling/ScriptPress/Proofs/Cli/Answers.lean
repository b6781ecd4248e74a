import ScriptPress.Proofs.Run.Log
import ScriptPress.Cli.Dialogue

/-!
# Answers in a log

What a dialogue was told is looked up in its log: the choices and the texts by the titles of their
questions, the sources by their paths, the exchange with the service. Put together they are the
request as it was given. A log that concerns some questions alone says nothing of the others.
-/
namespace ScriptPress

/-! ### Answers in a log -/

namespace Happening

def choice? (title : String) : Happening → Option Nat
  | .answered (.choice asked items) i =>
    let item : Fin items.length := i
    if asked = title then some item.val else none
  | _ => none

def text? (title : String) : Happening → Option String
  | .answered (.entry e) text => if e.title = title then some text else none
  | _ => none

/-- The text without the line breaks at its end, if this is the reading of the source at a path. -/
def source? (path : String) : Happening → Option String
  | .input bytes => if Source.isStandardInput path then (Source.ofInput bytes).toOption else none
  | .read found content => if found = path then (content.sourceAt path).toOption else none
  | _ => none

def exchange? : Happening → Option (Service.Exchange × Service.Reply)
  | .sent e reply => some (e, reply)
  | _ => none

theorem Gives.source?_eq {h : Happening} {path text : String} (hg : h.Gives path text) :
    h.source? path = some text := by
  unfold Gives at hg
  by_cases hpath : Source.isStandardInput path = true
  · rw [if_pos hpath] at hg
    obtain ⟨bytes, rfl, htext⟩ := hg
    rw [source?, if_pos hpath, htext]
    rfl
  · rw [if_neg hpath] at hg
    obtain ⟨content, rfl, htext⟩ := hg
    rw [source?, if_pos rfl, htext]
    rfl

/-- A source that is read answers no question and is no exchange. -/
theorem Gives.no_answer {h : Happening} {path text : String} (hg : h.Gives path text) :
    (∀ title, h.choice? title = none) ∧ (∀ title, h.text? title = none) ∧ h.exchange? = none := by
  unfold Gives at hg
  by_cases hpath : Source.isStandardInput path = true
  · rw [if_pos hpath] at hg
    obtain ⟨bytes, rfl, -⟩ := hg
    exact ⟨fun _ => rfl, fun _ => rfl, rfl⟩
  · rw [if_neg hpath] at hg
    obtain ⟨content, rfl, -⟩ := hg
    exact ⟨fun _ => rfl, fun _ => rfl, rfl⟩

end Happening

namespace Cli

open Prompt (Question)

def choiceIn (log : List Happening) (title : String) : Option Nat :=
  log.findSome? (Happening.choice? title)

def textIn (log : List Happening) (title : String) : Option String :=
  log.findSome? (Happening.text? title)

def sourceIn (log : List Happening) (path : String) : Option String :=
  log.findSome? (Happening.source? path)

def exchangeIn (log : List Happening) : Option (Service.Exchange × Service.Reply) :=
  log.findSome? Happening.exchange?

def languageGiven (o : PromptOptions) (log : List Happening) : Option Language :=
  match o.language with
  | some id => (Language.resolve id).toOption
  | none => (choiceIn log "Select a language").bind fun i => Language.all[i]?

/-- The answer of the service if it succeeded, or the empty text. -/
def bodyAnswered (log : List Happening) : String :=
  match exchangeIn log with
  | some (e, reply) => Service.bodyOrEmpty (reply.outcome .inferBody e.address)
  | none => ""

/-- The body that was given: the text of a file, the answer of the service, or the empty text. There
is none as long as the file has not been read. -/
def bodyGiven? (o : PromptOptions) (log : List Happening) : Option String :=
  match o.body with
  | some path => sourceIn log path
  | none =>
    match choiceIn log "Where does the transformation body come from?" with
    | some 0 => some (bodyAnswered log)
    | some 1 => (textIn log "Body file").bind (sourceIn log)
    | _ => some ""

/-- The request that says what was answered; a field that was not asked for is missing. -/
def requestGiven (o : PromptOptions) (l : Language) (log : List Happening) (body : String) :
    Request where
  language := o.language.getD l.id
  extension := (choiceIn log "Select a file extension").bind fun i => l.extensions[i]?
  filePattern := textIn log "File pattern"
  runtimeVersion := (textIn log ("Minimum " ++ l.runtimeName ++ " version")).getD ""
  dependencyVersion := (textIn log (l.dependencyKind ++ " version")).getD ""
  body := body

/-- Whether a dialogue has asked for all fields that its options neither give nor spare it, and for
no other. -/
structure FieldsAsked (o : PromptOptions) (l : Language) (log : List Happening) : Prop where
  language : (choiceIn log "Select a language").isSome = o.language.isNone
  extension : (choiceIn log "Select a file extension").isSome =
    (!o.yes && decide (l.extensions.length ≠ 1))
  filePattern : (textIn log "File pattern").isSome = !o.yes
  runtimeVersion : (textIn log ("Minimum " ++ l.runtimeName ++ " version")).isSome = !o.yes
  dependencyVersion : (textIn log (l.dependencyKind ++ " version")).isSome = !o.yes

/-! ### Parts of a log -/

theorem choiceIn_append (log later : List Happening) (title : String) :
    choiceIn (log ++ later) title = (choiceIn log title).or (choiceIn later title) :=
  List.findSome?_append

theorem textIn_append (log later : List Happening) (title : String) :
    textIn (log ++ later) title = (textIn log title).or (textIn later title) :=
  List.findSome?_append

theorem sourceIn_append (log later : List Happening) (path : String) :
    sourceIn (log ++ later) path = (sourceIn log path).or (sourceIn later path) :=
  List.findSome?_append

theorem exchangeIn_append (log later : List Happening) :
    exchangeIn (log ++ later) = (exchangeIn log).or (exchangeIn later) :=
  List.findSome?_append

theorem choiceIn_cons (h : Happening) (later : List Happening) (title : String) :
    choiceIn (h :: later) title = (h.choice? title).or (choiceIn later title) := by
  rw [← List.singleton_append, choiceIn_append]
  exact congrArg (Option.or · _) List.findSome?_singleton

theorem textIn_cons (h : Happening) (later : List Happening) (title : String) :
    textIn (h :: later) title = (h.text? title).or (textIn later title) := by
  rw [← List.singleton_append, textIn_append]
  exact congrArg (Option.or · _) List.findSome?_singleton

theorem sourceIn_cons (h : Happening) (later : List Happening) (path : String) :
    sourceIn (h :: later) path = (h.source? path).or (sourceIn later path) := by
  rw [← List.singleton_append, sourceIn_append]
  exact congrArg (Option.or · _) List.findSome?_singleton

theorem exchangeIn_cons (h : Happening) (later : List Happening) :
    exchangeIn (h :: later) = h.exchange?.or (exchangeIn later) := by
  rw [← List.singleton_append, exchangeIn_append]
  exact congrArg (Option.or · _) List.findSome?_singleton

theorem textIn_answered (e : Prompt.Entry) (text title : String) (later : List Happening) :
    textIn (.answered (.entry e) text :: later) title =
      if e.title = title then some text else textIn later title := by
  have hfirst : Happening.text? title (.answered (.entry e) text) =
      if e.title = title then some text else none := rfl
  rw [textIn_cons, hfirst]
  by_cases h : e.title = title
  · rw [if_pos h, if_pos h]
    rfl
  · rw [if_neg h, if_neg h]
    rfl

/-- Whether a happening is a note or the answer to a choice or an entry with one of these titles. -/
def Concerns (titles : List String) : Happening → Prop
  | .answered (.choice title _) _ => title ∈ titles
  | .answered (.entry e) _ => e.title ∈ titles
  | .noted _ => True
  | _ => False

theorem lookups_of_concerns {titles : List String} {log : List Happening}
    (h : ∀ e ∈ log, Concerns titles e) :
    (∀ title, title ∉ titles → choiceIn log title = none ∧ textIn log title = none) ∧
      (∀ path, sourceIn log path = none) ∧ exchangeIn log = none := by
  simp only [choiceIn, textIn, sourceIn, exchangeIn, List.findSome?_eq_none_iff]
  have hone : ∀ e, Concerns titles e →
      (∀ title, title ∉ titles → e.choice? title = none ∧ e.text? title = none) ∧
        (∀ path, e.source? path = none) ∧ e.exchange? = none := by
    intro e he
    cases e with
    | answered q a =>
      cases q with
      | choice asked items =>
        refine ⟨fun title ht => ⟨if_neg ?_, rfl⟩, fun _ => rfl, rfl⟩
        rintro rfl
        exact ht he
      | entry e =>
        refine ⟨fun title ht => ⟨rfl, if_neg ?_⟩, fun _ => rfl, rfl⟩
        rintro rfl
        exact ht he
      | confirmation title initial => exact he.elim
    | noted n => exact ⟨fun _ _ => ⟨rfl, rfl⟩, fun _ => rfl, rfl⟩
    | _ => exact he.elim
  exact ⟨fun title ht => ⟨fun e he => ((hone e (h e he)).1 title ht).1,
      fun e he => ((hone e (h e he)).1 title ht).2⟩,
    fun path e he => (hone e (h e he)).2.1 path, fun e he => (hone e (h e he)).2.2⟩

end Cli
end ScriptPress
