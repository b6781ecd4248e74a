import ScriptPress.Proofs.Cli.Results
import ScriptPress.Proofs.Run.Log

/-!
# All or nothing

Every command writes in its last step only. Here each command is cut before that step: what comes
first makes ready a result and writes nothing (`Command.writesNothing_prepared`), and the last step
puts the whole result in one place or fails. Main statement: `all_or_nothing`, about every
invocation that asks for a command.
-/
namespace ScriptPress.Cli

/-- What a command makes: a text, and the file it should go to if not on the screen. -/
structure Result where
  target : Option String
  text : String
  deriving DecidableEq, Repr

/-! ### Commands before their last step -/

/-- The script of a request, with the warnings about it. -/
def scriptOf (target : Option String) (r : Request) : Run Result := do
  let snippet ← Run.ofFault r.assemble
  warn snippet.warnings
  return ⟨target, snippet.text⟩

/-- The request of `generate`, once the service has been asked for its body. -/
def generatedRequest (f : Fields) (inputs expected : List String) (endpoint : String) :
    Run Request := do
  let id ← match f.language with
    | some id => Run.done id
    | none => Run.fail (.plain "No language given. Pass --language.")
  let language ← Run.ofFault (Language.resolve id)
  if inputs.length ≠ expected.length then
    Run.fail (unpaired inputs.length expected.length)
  else
    let session ← Run.ofFault (sessionOf language f.extension)
    let session ← readPairs 0 session (inputs.zip expected)
    let e ← Run.ofFault (Service.Endpoint.ofText endpoint)
    let (revision, query) := session.bodyQuery
    let address := e.address language .inferBody
    Run.tell (.status ("Generating snippet via " ++ Service.addressText address))
    let outcome ← Run.post .inferBody address query.payload
    warnOf outcome
    let (_, session) := session.acceptBody revision (Service.bodyOrEmpty outcome)
    return f.over session.request

/-- What the service makes of the script that `try` has it run. -/
def trialResult (f : Fields) (source endpoint : String) (r : Request) : Run Result := do
  let snippet ← Run.ofFault r.assemble
  warn snippet.warnings
  let code ← Run.source source
  let e ← Run.ofFault (Service.Endpoint.ofText endpoint)
  let address := e.address snippet.language .tryScript
  Run.tell (.status ("Running snippet via " ++ Service.addressText address))
  let outcome ← Run.post .tryScript address (snippet.trial code).payload
  let text ← Run.ofFault outcome
  return ⟨f.output, text⟩

/-- The script of a dialogue, and the target that the user names for it. -/
def dialogueResult (limit : Nat) (o : PromptOptions) : Run Result := do
  Run.tell (.intro "Synvert Snippet")
  let s ← askSession limit o
  let snippet ← Run.ofFault s.render
  caution snippet.warnings
  let target ← askTarget o
  return ⟨target, snippet.text⟩

namespace Command

/-- A command up to its last step. -/
def prepared (limit : Nat) : Command → Run Result
  | .render f s => requestOf f s >>= scriptOf f.output
  | .generate f inputs expected endpoint =>
    generatedRequest f inputs expected endpoint >>= scriptOf f.output
  | .trial f s source endpoint => requestOf f s >>= trialResult f source endpoint
  | .prompt o => dialogueResult limit o
  | .languages =>
    return ⟨none, "\n".intercalate ("Supported languages" :: "" :: Language.all.map languageLine)⟩

def finish : Command → Result → Run Unit
  | .prompt _, x => conclude x.target x.text
  | _, x => deliver x.target x.text

/-- What stands on the screen before the result of a command. -/
def before : Command → String
  | .prompt _ => "\n"
  | _ => ""

end Command

theorem emit_eq (r : Request) (output : Option String) :
    emit r output = (scriptOf output r >>= fun x => deliver x.target x.text) := by
  simp only [emit, scriptOf, Run.bind_assoc, Run.pure_bind]

theorem render_eq_scriptOf (f : Fields) (s : Sources) :
    render f s = (requestOf f s >>= scriptOf f.output >>= fun x => deliver x.target x.text) := by
  simp only [render, emit_eq, Run.bind_assoc]

theorem generate_eq_scriptOf (f : Fields) (inputs expected : List String) (endpoint : String) :
    generate f inputs expected endpoint =
      (generatedRequest f inputs expected endpoint >>= scriptOf f.output >>= fun x =>
        deliver x.target x.text) := by
  unfold generate generatedRequest
  cases f.language with
  | none => rfl
  | some id =>
    simp only [Run.done_bind, Run.bind_assoc, emit_eq]
    refine congrArg (Run.ofFault (Language.resolve id) >>= ·) (funext fun language => ?_)
    by_cases hpaired : inputs.length ≠ expected.length
    · rw [if_pos hpaired, if_pos hpaired, Run.fail_bind]
    · rw [if_neg hpaired, if_neg hpaired]
      simp only [Run.bind_assoc, Run.pure_bind]

theorem trial_eq_trialResult (f : Fields) (s : Sources) (source endpoint : String) :
    trial f s source endpoint =
      (requestOf f s >>= trialResult f source endpoint >>= fun x => deliver x.target x.text) := by
  simp only [trial, trialResult, Run.bind_assoc, Run.pure_bind]

theorem dialogue_eq_dialogueResult (limit : Nat) (o : PromptOptions) :
    dialogue limit o =
      (dialogueResult limit o >>= fun x => conclude x.target x.text).endingWith .cursorShown := by
  simp only [dialogue, dialogueResult, Run.bind_assoc, Run.pure_bind]

/-! ### Nothing is written before the last step -/

open Run (WritesNothing writesNothing_done writesNothing_fail writesNothing_ofFault
  writesNothing_tell writesNothing_source writesNothing_answer writesNothing_post)

theorem writesNothing_requestOf (f : Fields) (s : Sources) : (requestOf f s).WritesNothing := by
  obtain ⟨request, body⟩ := s
  have hrest : ∀ base, WritesNothing (if !namesLanguage (f.over base) then
      Run.fail (.plain "No language given. Pass --language or a request file with `language`.")
    else
      match body with
      | some path => do
        let text ← Run.source path
        return { f.over base with body := text }
      | none => return f.over base) := by
    intro base
    by_cases hnamed : (!namesLanguage (f.over base)) = true
    · rw [if_pos hnamed]
      exact writesNothing_fail _
    · rw [if_neg hnamed]
      cases body with
      | none => exact writesNothing_done _
      | some path => exact (writesNothing_source path).bind fun _ => writesNothing_done _
  cases request with
  | none => exact (writesNothing_done Request.blank).bind hrest
  | some path =>
    have hread := Run.writesNothing_readFile path fun content =>
      Run.writesNothing_ofReport (Request.ofFile path content)
    exact hread.bind hrest

theorem writesNothing_scriptOf (target : Option String) (r : Request) :
    (scriptOf target r).WritesNothing :=
  (writesNothing_ofFault _).bind fun _ => (writesNothing_warn _).bind fun _ => writesNothing_done _

theorem writesNothing_readPairs (i : Nat) (s : Session) (files : List (String × String)) :
    (readPairs i s files).WritesNothing := by
  induction files generalizing i s with
  | nil => exact writesNothing_done s
  | cons file rest ih =>
    exact (writesNothing_source file.1).bind fun _ => (writesNothing_source file.2).bind fun _ =>
      ih _ _

theorem writesNothing_warnOf (outcome : Except Fault String) : (warnOf outcome).WritesNothing := by
  cases outcome with
  | ok body => exact writesNothing_done ()
  | error fault => exact writesNothing_tell _

theorem writesNothing_generatedRequest (f : Fields) (inputs expected : List String)
    (endpoint : String) : (generatedRequest f inputs expected endpoint).WritesNothing := by
  unfold generatedRequest
  cases f.language with
  | none => exact writesNothing_fail _
  | some id =>
    refine (writesNothing_done id).bind fun id => (writesNothing_ofFault _).bind fun language => ?_
    by_cases hpaired : inputs.length ≠ expected.length
    · rw [if_pos hpaired]
      exact writesNothing_fail _
    · rw [if_neg hpaired]
      refine (writesNothing_ofFault _).bind fun session =>
        (writesNothing_readPairs 0 session _).bind fun session => ?_
      refine (writesNothing_ofFault _).bind fun e => (writesNothing_tell _).bind fun _ => ?_
      exact (writesNothing_post _ _ _).bind fun outcome => (writesNothing_warnOf outcome).bind
        fun _ => writesNothing_done _

theorem writesNothing_trialResult (f : Fields) (source endpoint : String) (r : Request) :
    (trialResult f source endpoint r).WritesNothing := by
  unfold trialResult
  refine (writesNothing_ofFault _).bind fun snippet => (writesNothing_warn _).bind fun _ => ?_
  refine (writesNothing_source source).bind fun code => (writesNothing_ofFault _).bind fun e => ?_
  refine (writesNothing_tell _).bind fun _ => (writesNothing_post _ _ _).bind fun outcome => ?_
  exact (writesNothing_ofFault outcome).bind fun _ => writesNothing_done _

/-! ### Dialogues write nothing before their end -/

theorem writesNothing_askLanguage (o : PromptOptions) : (askLanguage o).WritesNothing := by
  unfold askLanguage
  cases o.language with
  | none => exact (writesNothing_answer _).bind fun _ => writesNothing_done _
  | some id =>
    exact (writesNothing_ofFault _).bind fun _ => (writesNothing_tell _).bind fun _ =>
      writesNothing_done _

theorem writesNothing_askExtension (o : PromptOptions) (s : Session) :
    (askExtension o s).WritesNothing := by
  unfold askExtension
  by_cases hone : s.language.extensions.length = 1 ∨ o.yes = true
  · rw [if_pos hone]
    exact writesNothing_done s
  · rw [if_neg hone]
    exact (writesNothing_answer _).bind fun _ => writesNothing_ofFault _

theorem writesNothing_askFilePattern (o : PromptOptions) (s : Session) :
    (askFilePattern o s).WritesNothing := by
  unfold askFilePattern
  cases o.yes with
  | true => exact (writesNothing_tell _).bind fun _ => writesNothing_done s
  | false => exact (writesNothing_answer _).bind fun _ => writesNothing_done _

theorem writesNothing_askVersions (o : PromptOptions) (s : Session) :
    (askVersions o s).WritesNothing := by
  unfold askVersions
  cases o.yes with
  | true => exact writesNothing_done s
  | false =>
    exact (writesNothing_answer _).bind fun _ => (writesNothing_answer _).bind fun _ =>
      writesNothing_done _

theorem writesNothing_askPairs (limit i : Nat) (s : Session) :
    (askPairs limit i s).WritesNothing := by
  induction limit generalizing i s with
  | zero => exact writesNothing_done s
  | succ limit ih =>
    refine (writesNothing_answer _).bind fun input => (writesNothing_source input).bind fun _ => ?_
    refine (writesNothing_answer _).bind fun output => (writesNothing_source output).bind fun _ => ?_
    refine (writesNothing_answer _).bind fun more => ?_
    cases more with
    | true => exact ih _ _
    | false => exact writesNothing_done _

theorem writesNothing_inferBody (limit : Nat) (o : PromptOptions) (s : Session) :
    (inferBody limit o s).WritesNothing := by
  unfold inferBody
  cases o.endpoint with
  | none => exact (writesNothing_tell _).bind fun _ => writesNothing_done s
  | some text =>
    refine (writesNothing_ofFault _).bind fun e => (writesNothing_askPairs limit 0 s).bind fun s => ?_
    refine (writesNothing_post _ _ _).bind fun outcome => ?_
    cases outcome with
    | ok body => exact (writesNothing_tell _).bind fun _ => writesNothing_done _
    | error fault =>
      exact (writesNothing_tell _).bind fun _ => (writesNothing_tell _).bind fun _ =>
        writesNothing_done s

theorem writesNothing_askBody (limit : Nat) (o : PromptOptions) (s : Session) :
    (askBody limit o s).WritesNothing := by
  unfold askBody
  cases o.body with
  | some path =>
    exact (writesNothing_source path).bind fun _ => (writesNothing_tell _).bind fun _ =>
      writesNothing_done _
  | none =>
    cases o.yes with
    | true => exact (writesNothing_tell _).bind fun _ => writesNothing_done s
    | false =>
      refine (writesNothing_answer _).bind fun way => ?_
      split
      · exact writesNothing_inferBody limit o s
      · exact (writesNothing_answer _).bind fun path => (writesNothing_source path).bind fun _ =>
          writesNothing_done _
      · exact writesNothing_done s

theorem writesNothing_askTarget (o : PromptOptions) : (askTarget o).WritesNothing := by
  unfold askTarget
  cases o.output with
  | some path => exact writesNothing_done _
  | none =>
    cases o.yes with
    | true => exact writesNothing_done _
    | false => exact (writesNothing_answer _).bind fun _ => writesNothing_done _

theorem writesNothing_dialogueResult (limit : Nat) (o : PromptOptions) :
    (dialogueResult limit o).WritesNothing := by
  have hsession : (askSession limit o).WritesNothing :=
    (writesNothing_askLanguage o).bind fun l => (writesNothing_askExtension o _).bind fun s =>
      (writesNothing_askFilePattern o s).bind fun s => (writesNothing_askVersions o s).bind fun s =>
        writesNothing_askBody limit o s
  refine (writesNothing_tell _).bind fun _ => hsession.bind fun s => ?_
  refine (writesNothing_ofFault _).bind fun snippet => (writesNothing_caution _).bind fun _ => ?_
  exact (writesNothing_askTarget o).bind fun _ => writesNothing_done _

theorem Command.writesNothing_prepared (limit : Nat) (c : Command) :
    (c.prepared limit).WritesNothing := by
  cases c with
  | render f s =>
    exact (writesNothing_requestOf f s).bind fun r => writesNothing_scriptOf f.output r
  | generate f inputs expected endpoint =>
    exact (writesNothing_generatedRequest f inputs expected endpoint).bind fun r =>
      writesNothing_scriptOf f.output r
  | trial f s source endpoint =>
    exact (writesNothing_requestOf f s).bind fun r => writesNothing_trialResult f source endpoint r
  | prompt o => exact writesNothing_dialogueResult limit o
  | languages => exact writesNothing_done _

/-! ### Where results go -/

def targetEntry : Prompt.Entry :=
  ⟨"Save to file (leave empty to print)", "", false, fun _ => none⟩

/-- The target that an answer names; a blank one names the screen. -/
def targetOf (answer : String) : Option String :=
  if Text.trimmed answer = "" then none else some (Text.trimmed answer)

/-- Where the script of a dialogue goes: to the file of the option, or with `--yes` on the screen, or
else where the last answer in the log says. -/
structure PromptOptions.Names (o : PromptOptions) (log : List Happening) (target : Option String) :
    Prop where
  given : ∀ path, o.output = some path → target = some path
  skipped : o.output = none → o.yes = true → target = none
  asked : o.output = none → o.yes = false → ∃ (earlier : List Happening) (answer : String),
    log = earlier ++ [.answered (.entry targetEntry) answer] ∧ target = targetOf answer

/-- Where the result of a command goes, given the log of its preparation. -/
def Command.Names (log : List Happening) : Command → Option String → Prop
  | .render f _, target => target = f.output
  | .generate f _ _ _, target => target = f.output
  | .trial f _ _ _, target => target = f.output
  | .prompt o, target => o.Names log target
  | .languages, target => target = none

theorem target_of_ends_scriptOf {target : Option String} {r : Request} {log : List Happening}
    {x : Result} (h : (scriptOf target r).Ends log (.ok x)) : x.target = target := by
  unfold scriptOf at h
  rw [Run.ends_ofFault_bind_iff] at h
  obtain ⟨snippet, -, hwarn⟩ := h
  obtain ⟨-, -, rest, -, hlast, -⟩ := (Run.ends_bind_iff _ _ log x).mp hwarn
  rw [((Run.ends_pure_iff _ x rest).mp hlast).2]

theorem PromptOptions.Names.append {o : PromptOptions} {log : List Happening}
    {target : Option String} (h : o.Names log target) (earlier : List Happening) :
    o.Names (earlier ++ log) target where
  given := h.given
  skipped := h.skipped
  asked := by
    intro houtput hyes
    obtain ⟨before, answer, rfl, htarget⟩ := h.asked houtput hyes
    exact ⟨earlier ++ before, answer, (List.append_assoc _ _ _).symm, htarget⟩

theorem names_of_ends_askTarget {o : PromptOptions} {log : List Happening} {target : Option String}
    (h : (askTarget o).Ends log (.ok target)) : o.Names log target := by
  obtain ⟨language, body, endpoint, output, yes⟩ := o
  cases output with
  | some path =>
    obtain ⟨-, rfl⟩ := (Run.ends_pure_iff _ target log).mp h
    exact ⟨fun _ hpath => hpath, nofun, nofun⟩
  | none =>
    cases yes with
    | true =>
      obtain ⟨-, rfl⟩ := (Run.ends_pure_iff _ target log).mp h
      exact ⟨nofun, fun _ _ => rfl, nofun⟩
    | false =>
      obtain ⟨answer, -, rest, hrest, rfl⟩ := (Run.ends_entry_bind_iff targetEntry _ log target).mp h
      obtain ⟨rfl, rfl⟩ := (Run.ends_pure_iff _ target rest).mp hrest
      exact ⟨nofun, nofun, fun _ _ => ⟨[], answer, rfl, rfl⟩⟩

theorem names_of_ends_dialogueResult {limit : Nat} {o : PromptOptions} {log : List Happening}
    {x : Result} (h : (dialogueResult limit o).Ends log (.ok x)) : o.Names log x.target := by
  unfold dialogueResult at h
  obtain ⟨afterIntro, hsession, rfl⟩ := (Run.ends_tell_bind_iff _ _ log x).mp h
  obtain ⟨s, asked, afterSession, -, hrender, rfl⟩ := (Run.ends_bind_iff _ _ _ x).mp hsession
  obtain ⟨snippet, -, hcaution⟩ := (Run.ends_ofFault_bind_iff _ _ afterSession x).mp hrender
  obtain ⟨-, cautions, ending, -, hending, rfl⟩ := (Run.ends_bind_iff _ _ _ x).mp hcaution
  obtain ⟨target, asking, rest, hasking, hrest, rfl⟩ := (Run.ends_bind_iff _ _ ending x).mp hending
  obtain ⟨rfl, rfl⟩ := (Run.ends_pure_iff _ x rest).mp hrest
  have hnames := ((names_of_ends_askTarget hasking).append cautions).append asked
  rw [List.append_nil]
  exact hnames.append [.noted (.intro "Synvert Snippet")]

theorem target_of_ends_trialResult {f : Fields} {source endpoint : String} {r : Request}
    {log : List Happening} {x : Result} (h : (trialResult f source endpoint r).Ends log (.ok x)) :
    x.target = f.output := by
  unfold trialResult at h
  obtain ⟨snippet, -, hwarn⟩ := (Run.ends_ofFault_bind_iff _ _ log x).mp h
  obtain ⟨-, -, log, -, hsource, -⟩ := (Run.ends_bind_iff _ _ log x).mp hwarn
  obtain ⟨code, -, log, -, hendpoint, -⟩ := (Run.ends_bind_iff _ _ log x).mp hsource
  obtain ⟨e, -, htell⟩ := (Run.ends_ofFault_bind_iff _ _ log x).mp hendpoint
  obtain ⟨log, hpost, -⟩ := (Run.ends_tell_bind_iff _ _ log x).mp htell
  obtain ⟨outcome, -, log, -, hresult, -⟩ := (Run.ends_bind_iff _ _ log x).mp hpost
  obtain ⟨text, -, hlast⟩ := (Run.ends_ofFault_bind_iff _ _ log x).mp hresult
  rw [((Run.ends_pure_iff _ x log).mp hlast).2]

theorem Command.names_of_ends {limit : Nat} {c : Command} {log : List Happening} {x : Result}
    (h : (c.prepared limit).Ends log (.ok x)) : c.Names log x.target := by
  cases c with
  | render f s =>
    obtain ⟨r, -, rest, -, hscript, -⟩ := (Run.ends_bind_iff _ _ log x).mp h
    exact target_of_ends_scriptOf hscript
  | generate f inputs expected endpoint =>
    obtain ⟨r, -, rest, -, hscript, -⟩ := (Run.ends_bind_iff _ _ log x).mp h
    exact target_of_ends_scriptOf hscript
  | trial f s source endpoint =>
    obtain ⟨r, -, rest, -, htrial, -⟩ := (Run.ends_bind_iff _ _ log x).mp h
    exact target_of_ends_trialResult htrial
  | prompt o => exact names_of_ends_dialogueResult h
  | languages =>
    rw [((Run.ends_pure_iff _ x log).mp h).2]
    rfl

/-! ### All or nothing -/

theorem Command.finished_finish (w : World) (p : Supply) (c : Command) (x : Result) :
    Finished w (Run.play w p (c.finish x)) c.before x.target x.text := by
  cases c with
  | prompt o => exact finished_conclude w p x.target x.text
  | render f s => exact finished_deliver w p x.target x.text
  | generate f inputs expected endpoint => exact finished_deliver w p x.target x.text
  | trial f s source endpoint => exact finished_deliver w p x.target x.text
  | languages => exact finished_deliver w p x.target x.text

theorem Command.play_run (limit : Nat) (w : World) (p : Supply) (c : Command) :
    let whole := Run.play w p (c.prepared limit >>= c.finish)
    (Run.play w p (c.run limit)).result = whole.result ∧
      (Run.play w p (c.run limit)).remains = whole.remains := by
  intro whole
  have hsame : c.run limit = (c.prepared limit >>= c.finish) →
      (Run.play w p (c.run limit)).result = whole.result ∧
        (Run.play w p (c.run limit)).remains = whole.remains := by
    intro h
    rw [h]
    exact ⟨rfl, rfl⟩
  cases c with
  | render f s => exact hsame (render_eq_scriptOf f s)
  | generate f inputs expected endpoint =>
    exact hsame (generate_eq_scriptOf f inputs expected endpoint)
  | trial f s source endpoint =>
    exact hsame (trial_eq_trialResult f s source endpoint)
  | prompt o =>
    have hplay := Run.play_endingWith w p .cursorShown
      (dialogueResult limit o >>= fun x => conclude x.target x.text)
    rw [Command.run, dialogue_eq_dialogueResult, hplay]
    exact ⟨rfl, Story.remains_concat_note _ _ _⟩
  | languages => exact hsame rfl

theorem Command.run_cases (limit : Nat) (w : World) (p : Supply) (c : Command) :
    let prepared := (Run.play w p (c.prepared limit)).result
    let played := Run.play w p (c.run limit)
    (∃ x, prepared = .ok x ∧ Finished w played c.before x.target x.text) ∨
      ∃ r, prepared = .error r ∧ played.result = .error r ∧ played.remains = .nothing := by
  intro prepared played
  obtain ⟨hresult, hremains⟩ := c.play_run limit w p
  obtain ⟨r, hprepared, herror, hnothing⟩ | ⟨x, hprepared, hrest⟩ :=
    (c.writesNothing_prepared limit).play_bind_cases w p c.finish
  · exact .inr ⟨r, hprepared, hresult.trans herror, hremains.trans hnothing⟩
  · have hfinished := c.finished_finish w (Run.remaining w p (c.prepared limit)) x
    refine .inl ⟨x, hprepared, ?_⟩
    unfold Finished at hfinished ⊢
    rw [hresult, hremains, hrest.1, hrest.2]
    exact hfinished

theorem Command.leaves (limit : Nat) (w : World) (p : Supply) (c : Command) :
    let prepared := (Run.play w p (c.prepared limit)).result
    let played := Run.play w p (c.run limit)
    (Status.ofResult played.result = .success ↔ ∃ x, prepared = .ok x ∧ w.CanTake x.target) ∧
    (Status.ofResult played.result ≠ .success → played.remains = .nothing) ∧
    ∀ x, prepared = .ok x → Status.ofResult played.result = .success →
      c.Names (Run.record w p (c.prepared limit)) x.target ∧
        played.remains = .ofText c.before x.target x.text := by
  intro prepared played
  obtain ⟨x, hprepared, hfinished⟩ | ⟨r, hprepared, herror, hnothing⟩ := c.run_cases limit w p
  · have honly : ∀ y, prepared = .ok y → y = x := fun y hy => Except.ok.inj (hy.symm.trans hprepared)
    obtain ⟨htake, hok, hremains⟩ | ⟨htake, ⟨r, herror⟩, hnothing⟩ := hfinished
    · have hstatus : Status.ofResult played.result = .success := congrArg Status.ofResult hok
      refine ⟨⟨fun _ => ⟨x, hprepared, htake⟩, fun _ => hstatus⟩, fun h => absurd hstatus h,
        fun y hy _ => ?_⟩
      obtain rfl := honly y hy
      have hends := (Run.record_ends w p (c.prepared limit)).1
      rw [hprepared] at hends
      exact ⟨Command.names_of_ends hends, hremains⟩
    · have hstatus : Status.ofResult played.result = .failure := congrArg Status.ofResult herror
      rw [hstatus]
      refine ⟨⟨nofun, ?_⟩, fun _ => hnothing, nofun⟩
      rintro ⟨y, hy, hy'⟩
      rw [honly y hy] at hy'
      exact absurd hy' htake
  · have hstatus : Status.ofResult played.result = .failure := congrArg Status.ofResult herror
    rw [hstatus]
    refine ⟨⟨nofun, ?_⟩, fun _ => hnothing, nofun⟩
    rintro ⟨x, hx, -⟩
    cases hprepared.symm.trans hx

/-- How an invocation ends and what it leaves behind; arguments that are not understood do
nothing. -/
def Invocation.ending (limit : Nat) (w : World) (p : Supply) (i : Invocation) : Status × Remains :=
  match i.run? limit with
  | none => (.misuse, .nothing)
  | some run => (Status.ofResult (Run.play w p run).result, (Run.play w p run).remains)

theorem Invocation.ending_command (limit : Nat) (w : World) (p : Supply) (c : Command) :
    (Invocation.command c).ending limit w p =
      (Status.ofResult (Run.play w p (c.run limit)).result,
        (Run.play w p (c.run limit)).remains) := rfl

/-- Whatever the arguments ask a command for, it is done in full or not at all. The invocation
succeeds exactly if the command makes a result that can go to its target; then the whole result is
there, in the file as it is or on the screen as one more line, and nothing else is left. In every
other case nothing is left. -/
theorem all_or_nothing (limit : Nat) (w : World) (p : Supply) (environment : Option String)
    (args : List String) (hhelp : Invocation.ofArguments environment args ≠ .help)
    (hversion : Invocation.ofArguments environment args ≠ .version) :
    let i := Invocation.ofArguments environment args
    let ending := i.ending limit w p
    (ending.1 = .success ↔ ∃ c x, i = .command c ∧
      (Run.play w p (c.prepared limit)).result = .ok x ∧ w.CanTake x.target) ∧
    (ending.1 ≠ .success → ending.2 = .nothing) ∧
    ∀ c x, i = .command c → (Run.play w p (c.prepared limit)).result = .ok x →
      ending.1 = .success → c.Names (Run.record w p (c.prepared limit)) x.target ∧
        ending.2 = .ofText c.before x.target x.text := by
  dsimp only
  cases hi : Invocation.ofArguments environment args with
  | help => exact absurd hi hhelp
  | version => exact absurd hi hversion
  | misuse =>
    refine ⟨⟨fun h => ?_, ?_⟩, fun _ => rfl, fun c x hc => ?_⟩
    · cases h
    · rintro ⟨c, x, hc, -⟩
      cases hc
    · cases hc
  | command c =>
    rw [Invocation.ending_command]
    obtain ⟨hsuccess, hnothing, hresult⟩ := c.leaves limit w p
    refine ⟨⟨fun h => ?_, ?_⟩, hnothing, fun c' x hc hx h => ?_⟩
    · obtain ⟨x, hx, htake⟩ := hsuccess.mp h
      exact ⟨c, x, rfl, hx, htake⟩
    · rintro ⟨c', x, hc, hx, htake⟩
      obtain rfl := Invocation.command.inj hc
      exact hsuccess.mpr ⟨x, hx, htake⟩
    · obtain rfl := Invocation.command.inj hc
      exact hresult x hx h

theorem all_or_nothing_ruby :
    let w : World := ⟨fun _ => .error .missing, fun _ => none, fun _ => .refused⟩
    let i := Invocation.ofArguments none ["render", "-l", "rb", "-o", "out"]
    let c : Command := .render ⟨some "rb", none, none, none, none, some "out"⟩ ⟨none, none⟩
    i = .command c ∧ ∃ x, (Run.play w ⟨[], none⟩ (c.prepared 0)).result = .ok x ∧
      i.ending 0 w ⟨[], none⟩ = (.success, ⟨"", [("out", x.text)]⟩) := by
  intro w i c
  have hi : i = .command c := by decide +kernel
  have hstatus : (i.ending 0 w ⟨[], none⟩).1 = .success := by decide +kernel
  obtain ⟨hsuccess, -, hresult⟩ := all_or_nothing 0 w ⟨[], none⟩ none
    ["render", "-l", "rb", "-o", "out"] (by decide +kernel) (by decide +kernel)
  obtain ⟨c', x, hc, hx, -⟩ := hsuccess.mp hstatus
  obtain rfl : c = c' := Invocation.command.inj (hi.symm.trans hc)
  obtain ⟨htarget, hremains⟩ := hresult c x hc hx hstatus
  have hout : x.target = some "out" := htarget
  rw [hout] at hremains
  exact ⟨hi, x, hx, Prod.ext hstatus hremains⟩

end ScriptPress.Cli
