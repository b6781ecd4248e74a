import ScriptPress.Proofs.Cli.FieldAnswers
import ScriptPress.Proofs.Cli.Pairs

/-!
# Ways to a body

The second part of a dialogue gets a body: from a file, from the service, or none. Main statements:
`ends_inferBody_iff` and `ends_askBody_iff` tell exactly which logs this part has, one for each way,
and with which session it ends; in each of them the body is found again.
-/
namespace ScriptPress
namespace Cli

open Prompt (Question)

def bodyQuestion : Question := .choice "Where does the transformation body come from?" bodyWays

theorem fieldTitles_first (l : Language) (title : String) (h : title ∈ fieldTitles l) :
    title.toList.head? ∉ [some 'I', some 'O', some 'B'] := by
  have hall : ∀ l : Language, ∀ title ∈ fieldTitles l,
      title.toList.head? ∉ [some 'I', some 'O', some 'B'] := by
    intro l
    cases l <;> decide
  exact hall l title h

theorem exampleTitles (l : Language) (i : Nat) (title : String) (h : title ∈ fieldTitles l) :
    "Input example #" ++ toString (i + 1) ++ " (file)" ≠ title ∧
      "Output example #" ++ toString (i + 1) ++ " (file)" ≠ title := by
  have hfirst := fieldTitles_first l title h
  constructor
  · rintro rfl
    exact hfirst (by simp [String.toList_append])
  · rintro rfl
    exact hfirst (by simp [String.toList_append])

/-- A part of a log that chooses nothing, gives no field and sends nothing. -/
structure Aside (log : List Happening) : Prop where
  no_choice : ∀ title, choiceIn log title = none
  no_text : ∀ l, ∀ title ∈ fieldTitles l, textIn log title = none
  no_exchange : exchangeIn log = none

theorem Aside.append {log later : List Happening} (h : Aside log) (hlater : Aside later) :
    Aside (log ++ later) where
  no_choice title := by
    rw [choiceIn_append, h.no_choice, hlater.no_choice, Option.none_or]
  no_text l title ht := by
    rw [textIn_append, h.no_text l title ht, hlater.no_text l title ht, Option.none_or]
  no_exchange := by
    rw [exchangeIn_append, h.no_exchange, hlater.no_exchange, Option.none_or]

theorem aside_of_notes (notes : List Note) : Aside (notes.map .noted) := by
  have hnotes : ∀ e ∈ notes.map Happening.noted, Concerns [] e := by
    intro e he
    obtain ⟨n, -, rfl⟩ := List.mem_map.mp he
    trivial
  obtain ⟨htitles, -, hexchange⟩ := lookups_of_concerns hnotes
  exact ⟨fun title => (htitles title List.not_mem_nil).1,
    fun _ title _ => (htitles title List.not_mem_nil).2, hexchange⟩

theorem PairAsked.aside {i : Nat} {pair : String × String} {more : Bool} {log : List Happening}
    (h : PairAsked i pair more log) : Aside log := by
  obtain @⟨inputPath, outputPath, inputRead, outputRead, -, -, hinput, houtput⟩ := h
  obtain ⟨hic, hit, hie⟩ := hinput.no_answer
  obtain ⟨hoc, hot, hoe⟩ := houtput.no_answer
  refine ⟨fun title => ?_, fun l title ht => ?_, ?_⟩
  · simp only [choiceIn_cons, hic, hoc]
    rfl
  · obtain ⟨hin, hout⟩ := exampleTitles l i title ht
    have hinText : Happening.text? title (.answered (inputQuestion i) inputPath) = none := if_neg hin
    have houtText : Happening.text? title (.answered (outputQuestion i) outputPath) = none :=
      if_neg hout
    simp only [textIn_cons, hit, hot, hinText, houtText]
    rfl
  · simp only [exchangeIn_cons, hie, hoe]
    rfl

theorem PairLog.aside {limit i : Nat} {pairs : List (String × String)} {log : List Happening}
    (h : PairLog limit i pairs log) : Aside log := by
  induction h with
  | stopped i => exact ⟨fun _ => rfl, fun _ _ _ => rfl, rfl⟩
  | last hasked => exact hasked.aside
  | more hasked hrest ih => exact hasked.aside.append ih

def unconfigured : Note :=
  .caution ("No snippet generator configured (set " ++ endpointVariable ++ " or pass --api-url)")

/-- What is told of the outcome of the question for a body. -/
def inferenceNotes : Except Fault String → List Note
  | .ok _ => [.finished "Snippet generated"]
  | .error fault => [.finished "Snippet generation failed",
      .caution (fault.message ++ " (continuing with an empty body)")]

def settleBody (s : Session) : Except Fault String → Run Session
  | .ok body => do
    Run.tell (.finished "Snippet generated")
    return (s.acceptBody s.revision body).2
  | .error fault => do
    Run.tell (.finished "Snippet generation failed")
    Run.tell (.caution (fault.message ++ " (continuing with an empty body)"))
    return s

theorem ends_settleBody_iff (s t : Session) (outcome : Except Fault String)
    (log : List Happening) (hbody : s.body = "") :
    (settleBody s outcome).Ends log (.ok t) ↔
      log = (inferenceNotes outcome).map .noted ∧
        t = { s with body := Service.bodyOrEmpty outcome } := by
  -- without an answer the body stays as it was, and it was empty
  have hkept : { s with body := "" } = s := by rw [← hbody]
  cases outcome with
  | ok body =>
    rw [settleBody, Session.acceptBody_revision]
    constructor
    · intro h
      obtain ⟨rest, h₁, rfl⟩ := (Run.ends_tell_bind_iff _ _ log t).mp h
      obtain ⟨rfl, rfl⟩ := (Run.ends_pure_iff _ t rest).mp h₁
      exact ⟨rfl, rfl⟩
    · rintro ⟨rfl, rfl⟩
      exact (Run.ends_tell_bind_iff _ _ _ _).mpr
        ⟨[], (Run.ends_pure_iff _ _ []).mpr ⟨rfl, rfl⟩, rfl⟩
  | error fault =>
    rw [settleBody, Service.bodyOrEmpty, hkept]
    constructor
    · intro h
      obtain ⟨_, h₁, rfl⟩ := (Run.ends_tell_bind_iff _ _ log t).mp h
      obtain ⟨rest, h₂, rfl⟩ := (Run.ends_tell_bind_iff _ _ _ t).mp h₁
      obtain ⟨rfl, rfl⟩ := (Run.ends_pure_iff s t rest).mp h₂
      exact ⟨rfl, rfl⟩
    · rintro ⟨rfl, rfl⟩
      refine (Run.ends_tell_bind_iff _ _ _ _).mpr ⟨_, ?_, rfl⟩
      exact (Run.ends_tell_bind_iff _ _ _ _).mpr
        ⟨[], (Run.ends_pure_iff _ _ []).mpr ⟨rfl, rfl⟩, rfl⟩

/-- The exchange that asks for a body that fits pairs. -/
def bodyExchange (e : Service.Endpoint) (s : Session) (pairs : List (String × String)) :
    Service.Exchange :=
  ⟨e.address s.language .inferBody, (s.withPairs 0 pairs).bodyQuery.2.payload⟩

/-- What follows in a log when the pairs have been read: the exchange, if it can be posted, and what
is told of its outcome. -/
def exchangeLog (exchange : Service.Exchange) (reply : Service.Reply) : List Happening :=
  (exchange.posted reply).map (fun sent => .sent sent.1 sent.2) ++
    (inferenceNotes (exchange.outcome .inferBody reply)).map .noted

/-- The session with pairs and the body that a reply gives for them. -/
def inferred (e : Service.Endpoint) (s : Session) (pairs : List (String × String))
    (reply : Service.Reply) : Session :=
  { s.withPairs 0 pairs with
    body := Service.bodyOrEmpty ((bodyExchange e s pairs).outcome .inferBody reply) }

/-- The log of the part that asks the service for a body, and the session after it. -/
inductive InferLog (limit : Nat) (o : PromptOptions) (s : Session) :
    List Happening → Session → Prop where
  | unasked (hendpoint : o.endpoint = none) : InferLog limit o s [.noted unconfigured] s
  | asked {text : String} {e : Service.Endpoint} {pairs : List (String × String)}
      {asking : List Happening} (reply : Service.Reply)
      (hendpoint : o.endpoint = some text) (he : Service.Endpoint.ofText text = .ok e)
      (hasking : PairLog limit 0 pairs asking) :
      InferLog limit o s (asking ++ exchangeLog (bodyExchange e s pairs) reply)
        (inferred e s pairs reply)

theorem inferBody_eq (limit : Nat) (o : PromptOptions) (s : Session) :
    inferBody limit o s =
      (match o.endpoint with
      | none => Run.tell unconfigured >>= fun _ => pure s
      | some text => do
        let e ← Run.ofFault (Service.Endpoint.ofText text)
        let filled ← askPairs limit 0 s
        let outcome ← Run.post .inferBody (e.address filled.language .inferBody)
          filled.bodyQuery.2.payload
        settleBody filled outcome) := rfl

theorem ends_inferBody_iff (limit : Nat) (o : PromptOptions) (s t : Session)
    (log : List Happening) (hbody : s.body = "") :
    (inferBody limit o s).Ends log (.ok t) ↔ InferLog limit o s log t := by
  have hfilled : ∀ pairs, (s.withPairs 0 pairs).language = s.language ∧
      (s.withPairs 0 pairs).body = "" := by
    intro pairs
    obtain ⟨examples, revision, hframe⟩ := Session.withPairs_frame 0 s pairs
    rw [hframe]
    exact ⟨rfl, hbody⟩
  rw [inferBody_eq]
  constructor
  · intro h
    split at h
    · rename_i hnone
      obtain ⟨rest, h₁, rfl⟩ := (Run.ends_tell_bind_iff _ _ log t).mp h
      obtain ⟨rfl, rfl⟩ := (Run.ends_pure_iff _ t rest).mp h₁
      exact .unasked hnone
    · rename_i text htext
      obtain ⟨e, he, h₁⟩ := (Run.ends_ofFault_bind_iff _ _ log t).mp h
      obtain ⟨_, asking, rest, hasking, h₂, rfl⟩ := (Run.ends_bind_iff _ _ log t).mp h₁
      obtain ⟨pairs, hpairs, rfl⟩ := (ends_askPairs_iff limit 0 s _ asking).mp hasking
      obtain ⟨hlanguage, hempty⟩ := hfilled pairs
      rw [hlanguage] at h₂
      obtain ⟨outcome, posting, after, hposting, h₃, rfl⟩ := (Run.ends_bind_iff _ _ rest t).mp h₂
      obtain ⟨reply, rfl, rfl⟩ := (Run.ends_post_iff _ _ _ outcome posting).mp hposting
      obtain ⟨rfl, rfl⟩ := (ends_settleBody_iff _ t _ after hempty).mp h₃
      exact .asked reply htext he hpairs
  · rintro (hendpoint | @⟨text, e, pairs, asking, reply, hendpoint, he, hasking⟩)
    · rw [hendpoint]
      exact (Run.ends_tell_bind_iff _ _ _ s).mpr ⟨[], (Run.ends_pure_iff s s []).mpr ⟨rfl, rfl⟩, rfl⟩
    · rw [hendpoint]
      obtain ⟨hlanguage, hempty⟩ := hfilled pairs
      refine (Run.ends_ofFault_bind_iff _ _ _ _).mpr ⟨e, he, ?_⟩
      refine ((ends_askPairs_iff limit 0 s _ asking).mpr ⟨pairs, hasking, rfl⟩).bind ?_
      rw [hlanguage]
      refine Run.Ends.bind ((Run.ends_post_iff _ _ _ _ _).mpr ⟨reply, rfl, rfl⟩) ?_
      exact (ends_settleBody_iff _ _ _ _ hempty).mpr ⟨rfl, rfl⟩

/-- A session with the body that was given in the rest of its dialogue; that part of the log has no
answer for the fields before. -/
structure BodyTaken (body : String) (s : Session) (log : List Happening) (t : Session) : Prop where
  taken : ∃ examples revision,
    t = { s with examples := examples, revision := revision, body := body }
  no_choice : ∀ title ∈ ["Select a language", "Select a file extension"], choiceIn log title = none
  no_text : ∀ l, ∀ title ∈ fieldTitles l, textIn log title = none

theorem lookups_exchangeLog (exchange : Service.Exchange) (reply : Service.Reply) :
    (∀ title, choiceIn (exchangeLog exchange reply) title = none) ∧
      (∀ l, ∀ title ∈ fieldTitles l, textIn (exchangeLog exchange reply) title = none) ∧
      bodyAnswered (exchangeLog exchange reply) =
        Service.bodyOrEmpty (exchange.outcome .inferBody reply) := by
  have hnotes := aside_of_notes (inferenceNotes (exchange.outcome .inferBody reply))
  unfold exchangeLog Service.Exchange.posted bodyAnswered
  by_cases hpost : Service.canPost exchange.address = true
  · rw [if_pos hpost, List.map_cons, List.map_nil]
    refine ⟨hnotes.no_choice, hnotes.no_text, ?_⟩
    rw [Service.Exchange.outcome, if_pos hpost]
    rfl
  · rw [if_neg hpost, List.map_nil, List.nil_append]
    refine ⟨hnotes.no_choice, hnotes.no_text, ?_⟩
    rw [hnotes.no_exchange, Service.Exchange.outcome, if_neg hpost]
    rfl

theorem InferLog.bodyTaken {limit : Nat} {o : PromptOptions} {s t : Session} {log : List Happening}
    (hbody : s.body = "") (h : InferLog limit o s log t) :
    BodyTaken (bodyAnswered log) s log t ∧ ∀ title, choiceIn log title = none := by
  cases h with
  | unasked hendpoint =>
    refine ⟨⟨⟨s.examples, s.revision, ?_⟩, fun _ _ => rfl, fun _ _ _ => rfl⟩, fun _ => rfl⟩
    show s = { s with body := "" }
    rw [← hbody]
  | @asked text e pairs asking reply hendpoint he hasking =>
    have hpairs := hasking.aside
    obtain ⟨hchoice, htext, hanswered⟩ := lookups_exchangeLog (bodyExchange e s pairs) reply
    have hnochoice : ∀ title,
        choiceIn (asking ++ exchangeLog (bodyExchange e s pairs) reply) title = none := by
      intro title
      rw [choiceIn_append, hpairs.no_choice, hchoice, Option.none_or]
    refine ⟨⟨?_, fun title _ => hnochoice title, fun l title ht => ?_⟩, hnochoice⟩
    · obtain ⟨examples, revision, hframe⟩ := Session.withPairs_frame 0 s pairs
      rw [bodyAnswered, exchangeIn_append, hpairs.no_exchange, Option.none_or, ← bodyAnswered,
        hanswered, inferred, hframe]
      exact ⟨examples, revision, rfl⟩
    · rw [textIn_append, hpairs.no_text l title ht, htext l title ht, Option.none_or]

/-- The log of the part that asks for a body, one case for each way to a body, and the session after
it. -/
inductive BodyLog (limit : Nat) (o : PromptOptions) (s : Session) :
    List Happening → Session → Prop where
  | given {path text : String} {e : Happening} (hbody : o.body = some path)
      (hgives : e.Gives path text) :
      BodyLog limit o s [e, .noted (.info ("Using body from " ++ path))] (withBody s text)
  | skipped (hbody : o.body = none) (hyes : o.yes = true) :
      BodyLog limit o s [.noted (.info "No body given, rendering an empty within-files block")] s
  | inferred {t : Session} {rest : List Happening} (way : Fin bodyWays.length)
      (hbody : o.body = none) (hno : o.yes = false) (hway : way.val = 0)
      (hrest : InferLog limit o s rest t) :
      BodyLog limit o s (.answered bodyQuestion way :: rest) t
  | file {path text : String} {e : Happening} (way : Fin bodyWays.length) (hbody : o.body = none)
      (hno : o.yes = false) (hway : way.val = 1) (hpath : path ≠ "") (hgives : e.Gives path text) :
      BodyLog limit o s
        [.answered bodyQuestion way, .answered (requiredEntry "Body file") path, e]
        (withBody s text)
  | left (way : Fin bodyWays.length) (hbody : o.body = none) (hno : o.yes = false)
      (hzero : way.val ≠ 0) (hone : way.val ≠ 1) :
      BodyLog limit o s [.answered bodyQuestion way] s

theorem ends_askBody_iff (limit : Nat) (o : PromptOptions) (s t : Session) (log : List Happening)
    (hempty : s.body = "") : (askBody limit o s).Ends log (.ok t) ↔ BodyLog limit o s log t := by
  unfold askBody
  constructor
  · intro h
    split at h
    · rename_i path hpath
      obtain ⟨e, text, hgives, _, h₁, rfl⟩ := (Run.ends_source_bind_iff path _ log t).mp h
      obtain ⟨_, h₂, rfl⟩ := (Run.ends_tell_bind_iff _ _ _ t).mp h₁
      obtain ⟨rfl, rfl⟩ := (Run.ends_pure_iff _ t _).mp h₂
      exact .given hpath hgives
    · rename_i hnone
      split at h
      · rename_i hyes
        obtain ⟨_, h₁, rfl⟩ := (Run.ends_tell_bind_iff _ _ log t).mp h
        obtain ⟨rfl, rfl⟩ := (Run.ends_pure_iff s t _).mp h₁
        exact .skipped hnone hyes
      · rename_i hyes
        have hno := Bool.eq_false_iff.mpr hyes
        obtain ⟨way, -, rest, h₁, rfl⟩ := (Run.ends_answer_bind_iff bodyQuestion _ log t).mp h
        split at h₁
        · rename_i hzero
          exact .inferred way hnone hno hzero ((ends_inferBody_iff limit o s t rest hempty).mp h₁)
        · rename_i hone
          obtain ⟨path, hadmits, _, h₂, rfl⟩ :=
            (Run.ends_entry_bind_iff ⟨"Body file", "", true, fun _ => none⟩ _ rest t).mp h₁
          obtain ⟨e, text, hgives, _, h₃, rfl⟩ := (Run.ends_source_bind_iff path _ _ t).mp h₂
          obtain ⟨rfl, rfl⟩ := (Run.ends_pure_iff _ t _).mp h₃
          exact .file way hnone hno hone ((admits_requiredEntry_iff "Body file" path).mp hadmits)
            hgives
        · rename_i hzero hone
          obtain ⟨rfl, rfl⟩ := (Run.ends_pure_iff s t rest).mp h₁
          exact .left way hnone hno hzero hone
  · intro h
    cases h with
    | @given path text e hbody hgives =>
      simp only [hbody]
      refine (Run.ends_source_bind_iff path _ _ _).mpr ⟨e, text, hgives, _, ?_, rfl⟩
      exact (Run.ends_tell_bind_iff _ _ _ _).mpr
        ⟨[], (Run.ends_pure_iff _ _ []).mpr ⟨rfl, rfl⟩, rfl⟩
    | skipped hbody hyes =>
      simp only [hbody, hyes, if_true]
      exact (Run.ends_tell_bind_iff _ _ _ _).mpr
        ⟨[], (Run.ends_pure_iff _ _ []).mpr ⟨rfl, rfl⟩, rfl⟩
    | inferred way hbody hno hway hrest =>
      simp only [hbody, hno, Bool.false_eq_true, if_false]
      refine (Run.ends_answer_bind_iff bodyQuestion _ _ t).mpr ⟨way, trivial, _, ?_, rfl⟩
      rw [hway]
      exact (ends_inferBody_iff limit o s t _ hempty).mpr hrest
    | @file path text e way hbody hno hway hpath hgives =>
      simp only [hbody, hno, Bool.false_eq_true, if_false]
      refine (Run.ends_answer_bind_iff bodyQuestion _ _ _).mpr ⟨way, trivial, _, ?_, rfl⟩
      rw [hway]
      refine (Run.ends_answer_bind_iff (requiredEntry "Body file") _ _ _).mpr
        ⟨path, (admits_requiredEntry_iff "Body file" path).mpr hpath, _, ?_, rfl⟩
      refine (Run.ends_source_bind_iff path _ _ _).mpr ⟨e, text, hgives, [], ?_, rfl⟩
      exact (Run.ends_pure_iff _ _ []).mpr ⟨rfl, rfl⟩
    | left way hbody hno hzero hone =>
      simp only [hbody, hno, Bool.false_eq_true, if_false]
      refine (Run.ends_answer_bind_iff bodyQuestion _ _ _).mpr ⟨way, trivial, [], ?_, rfl⟩
      split
      · rename_i heq
        exact absurd heq hzero
      · rename_i heq
        exact absurd heq hone
      · exact (Run.ends_pure_iff s s []).mpr ⟨rfl, rfl⟩

theorem lookups_way (way : Fin bodyWays.length) (rest : List Happening) :
    choiceIn (.answered bodyQuestion way :: rest)
        "Where does the transformation body come from?" = some way.val ∧
      (∀ title ∈ ["Select a language", "Select a file extension"],
        choiceIn (.answered bodyQuestion way :: rest) title = choiceIn rest title) ∧
      (∀ title, textIn (.answered bodyQuestion way :: rest) title = textIn rest title) ∧
      bodyAnswered (.answered bodyQuestion way :: rest) = bodyAnswered rest := by
  refine ⟨?_, fun title ht => ?_, fun title => ?_, ?_⟩
  · rw [choiceIn_cons]
    rfl
  · have hother : Happening.choice? title (.answered bodyQuestion way) = none :=
      if_neg fun heq => absurd (heq ▸ ht) (by decide)
    rw [choiceIn_cons, hother, Option.none_or]
  · rw [textIn_cons]
    rfl
  · rw [bodyAnswered, exchangeIn_cons]
    rfl

/-- Every way to a body is asked for or given, and gives one. -/
theorem BodyLog.bodyTaken {limit : Nat} {o : PromptOptions} {s t : Session} {log : List Happening}
    (hempty : s.body = "") (h : BodyLog limit o s log t) :
    (∃ body, bodyGiven? o log = some body ∧ BodyTaken body s log t) ∧
      (choiceIn log "Where does the transformation body come from?").isSome =
        (!o.yes && o.body.isNone) := by
  have hkept : ∃ examples revision,
      s = { s with examples := examples, revision := revision, body := "" } := by
    refine ⟨s.examples, s.revision, ?_⟩
    rw [← hempty]
  have hwith : ∀ text, ∃ examples revision, withBody s text =
      { s with examples := examples, revision := revision, body := text } := by
    intro text
    rw [withBody, Session.acceptBody_revision]
    exact ⟨s.examples, s.revision, rfl⟩
  cases h with
  | @given path text e hbody hgives =>
    obtain ⟨hnochoice, hnotext, -⟩ := hgives.no_answer
    have hchoice : ∀ title,
        choiceIn [e, .noted (.info ("Using body from " ++ path))] title = none := by
      intro title
      rw [choiceIn_cons, hnochoice]
      rfl
    refine ⟨⟨text, ?_, hwith text, fun title _ => hchoice title, fun _ title _ => ?_⟩, ?_⟩
    · rw [bodyGiven?, hbody]
      dsimp only
      rw [sourceIn_cons, hgives.source?_eq, Option.some_or]
    · rw [textIn_cons, hnotext]
      rfl
    · rw [hchoice, hbody, Option.isNone_some, Bool.and_false]
      rfl
  | skipped hbody hyes =>
    refine ⟨⟨"", ?_, hkept, fun _ _ => rfl, fun _ _ _ => rfl⟩, ?_⟩
    · rw [bodyGiven?, hbody]
      rfl
    · rw [hyes]
      rfl
  | @inferred t rest way hbody hno hway hrest =>
    obtain ⟨hfound, hchoice, htext, hanswered⟩ := lookups_way way rest
    obtain ⟨⟨htaken, -, hnotext⟩, hnochoice⟩ := hrest.bodyTaken hempty
    refine ⟨⟨bodyAnswered rest, ?_, htaken, ?_, ?_⟩, ?_⟩
    · rw [bodyGiven?, hbody, hfound, hway, ← hanswered]
      rfl
    · exact fun title ht => (hchoice title ht).trans (hnochoice title)
    · exact fun l title ht => (htext title).trans (hnotext l title ht)
    · rw [hfound, hbody, hno]
      rfl
  | @file path text e way hbody hno hway hpath hgives =>
    obtain ⟨hfound, hchoice, htext, -⟩ :=
      lookups_way way [.answered (requiredEntry "Body file") path, e]
    obtain ⟨hnochoice, hnotext, -⟩ := hgives.no_answer
    have hfile : ∀ title,
        textIn [.answered (requiredEntry "Body file") path, e] title =
          if "Body file" = title then some path else textIn [e] title :=
      fun title => textIn_answered ⟨"Body file", "", true, fun _ => none⟩ path title [e]
    refine ⟨⟨text, ?_, hwith text, fun title ht => ?_, fun l title ht => ?_⟩, ?_⟩
    · rw [bodyGiven?, hbody, hfound, hway]
      show (textIn _ "Body file").bind _ = _
      rw [htext, hfile, if_pos rfl, Option.bind_some, sourceIn_cons, sourceIn_cons, sourceIn_cons,
        hgives.source?_eq]
      rfl
    · rw [hchoice title ht, choiceIn_cons, choiceIn_cons, hnochoice]
      rfl
    · have hbodyFile : "Body file" ≠ title := by
        rintro rfl
        exact fieldTitles_first l _ ht (by decide)
      rw [htext, hfile, if_neg hbodyFile, textIn_cons, hnotext]
      rfl
    · rw [hfound, hbody, hno]
      rfl
  | left way hbody hno hzero hone =>
    obtain ⟨hfound, hchoice, htext, -⟩ := lookups_way way []
    refine ⟨⟨"", ?_, hkept, hchoice, fun _ title _ => htext title⟩, ?_⟩
    · rw [bodyGiven?, hbody, hfound]
      dsimp only
      split
      · rename_i heq
        exact (hzero (Option.some.inj heq)).elim
      · rename_i heq
        exact (hone (Option.some.inj heq)).elim
      · rfl
    · rw [hfound, hbody, hno]
      rfl

end Cli
end ScriptPress
