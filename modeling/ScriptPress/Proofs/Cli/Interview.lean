import ScriptPress.Proofs.Cli.BodyAnswers
import ScriptPress.Proofs.Request.Assembly

/-!
# Interviews

A dialogue keeps what it is told in a session, first the fields and then the body, and makes its
script of the session. Main statement: `render_askSession`, that the script of the session is the
script of the request that was given, and that only its file pattern can be refused.
-/
namespace ScriptPress
namespace Cli

theorem FieldsGiven.way_append {o : PromptOptions} {s : Session} {before : List Happening}
    (h : FieldsGiven o before s) (after : List Happening) :
    choiceIn (before ++ after) "Where does the transformation body come from?" =
      choiceIn after "Where does the transformation body come from?" := by
  have hbefore := ((lookups_of_concerns h.concerns).1
    "Where does the transformation body come from?" (by cases s.language <;> decide)).1
  rw [choiceIn_append, hbefore, Option.none_or]

theorem answers_append {o : PromptOptions} {s t : Session} {before after : List Happening}
    {body : String} (hfields : FieldsGiven o before s) (hbody : BodyTaken body s after t) :
    languageGiven o (before ++ after) = languageGiven o before ∧
      FieldsAsked o s.language (before ++ after) ∧
      textIn (before ++ after) "File pattern" = textIn before "File pattern" ∧
      bodyGiven? o (before ++ after) = bodyGiven? o after ∧
      requestGiven o s.language (before ++ after) = requestGiven o s.language before := by
  obtain ⟨hsilent, hsource, hexchange⟩ := lookups_of_concerns hfields.concerns
  have hchoice : ∀ title ∈ ["Select a language", "Select a file extension"],
      choiceIn (before ++ after) title = choiceIn before title := by
    intro title ht
    rw [choiceIn_append, hbody.no_choice title ht, Option.or_none]
  have htext : ∀ title ∈ fieldTitles s.language,
      textIn (before ++ after) title = textIn before title := by
    intro title ht
    rw [textIn_append, hbody.no_text s.language title ht, Option.or_none]
  have hlanguage := hchoice "Select a language" (by simp)
  have hextension := hchoice "Select a file extension" (by simp)
  have hpattern := htext "File pattern" (by simp [fieldTitles])
  have hruntime := htext (runtimeEntry s.language).title (by simp [fieldTitles])
  have hdependency := htext (dependencyEntry s.language).title (by simp [fieldTitles])
  rw [runtimeEntry] at hruntime
  rw [dependencyEntry] at hdependency
  have hfile : textIn (before ++ after) "Body file" = textIn after "Body file" := by
    have hbefore := (hsilent "Body file" (by cases s.language <;> decide)).2
    rw [textIn_append, hbefore, Option.none_or]
  have hsources : sourceIn (before ++ after) = sourceIn after := by
    funext path
    rw [sourceIn_append, hsource path, Option.none_or]
  have hanswered : bodyAnswered (before ++ after) = bodyAnswered after := by
    rw [bodyAnswered, exchangeIn_append, hexchange, Option.none_or, bodyAnswered]
  have hasked := hfields.asked
  refine ⟨?_, ?_, hpattern, ?_, ?_⟩
  · unfold languageGiven
    rw [hlanguage]
  · constructor
    · rw [hlanguage]
      exact hasked.language
    · rw [hextension]
      exact hasked.extension
    · rw [hpattern]
      exact hasked.filePattern
    · rw [hruntime]
      exact hasked.runtimeVersion
    · rw [hdependency]
      exact hasked.dependencyVersion
  · unfold bodyGiven?
    rw [hfields.way_append, hfile, hsources, hanswered]
  · unfold requestGiven
    rw [hextension, hpattern, hruntime, hdependency]

/-- The request that was answered resolves like the session that kept the answers. -/
theorem assemble_requestGiven {o : PromptOptions} {s : Session} {log : List Happening}
    (h : FieldsGiven o log s) :
    s.request.assemble = (requestGiven o s.language log s.body).assemble := by
  have hresolved : Language.resolve (o.language.getD s.language.id) = .ok s.language := by
    have hgiven := h.language
    unfold languageGiven at hgiven
    cases hid : o.language with
    | none => exact Language.resolve_id s.language
    | some id =>
      rw [hid] at hgiven
      cases hresolve : Language.resolve id with
      | error fault => simp [hresolve, Except.toOption] at hgiven
      | ok l =>
        have hl : l = s.language := by simpa [hresolve, Except.toOption] using hgiven
        rw [Option.getD_some, hresolve, hl]
  have hkept := s.language.resolveExtension_of_mem _ h.extension_mem
  have hextension : s.language.resolveExtension
      ((choiceIn log "Select a file extension").bind fun i => s.language.extensions[i]?) =
        .ok s.extension := by
    have hgiven := h.extension
    unfold extensionGiven at hgiven
    cases hchosen : (choiceIn log "Select a file extension").bind fun i =>
        s.language.extensions[i]? with
    | none =>
      rw [hgiven, hchosen]
      rfl
    | some e =>
      have he : s.extension = e := by rw [hgiven, hchosen, Option.getD_some]
      rw [← he]
      exact hkept
  apply Request.assemble_congr
  · exact (Language.resolve_id s.language).trans hresolved.symm
  · intro l hl
    have hsame : s.language = l := Except.ok.inj (hresolved.symm.trans hl)
    rw [← hsame]
    exact hkept.trans hextension.symm
  · intro l e hl he
    have hsame : s.language = l := Except.ok.inj (hresolved.symm.trans hl)
    rw [← hsame] at he
    have hchosen : s.extension = e := Except.ok.inj (hextension.symm.trans he)
    show Request.patternOr e (some s.filePattern) = Request.patternOr e (textIn log "File pattern")
    rw [h.filePattern, ← hchosen]
    cases textIn log "File pattern" with
    | none => exact Request.patternOr_defaultPattern s.language s.extension h.extension_mem
    | some pattern => rfl
  · exact h.runtimeVersion
  · exact h.dependencyVersion
  · rfl

/-- Only a file pattern that was answered can be refused. -/
theorem render_eq_error {o : PromptOptions} {s : Session} {log : List Happening} {fault : Fault}
    (h : FieldsGiven o log s) (hrender : s.request.assemble = .error fault) :
    ∃ pattern, textIn log "File pattern" = some pattern ∧
      fault = .controlCharacter .filePattern (Request.patternOr s.extension (some pattern)) := by
  obtain ⟨runtime, hruntime⟩ := h.runtime_reads
  obtain ⟨dependency, hdependency⟩ := h.dependency_reads
  have hlanguage : Language.resolve s.request.language = .ok s.language :=
    Language.resolve_id s.language
  have hextension : s.language.resolveExtension s.request.extension = .ok s.extension :=
    s.language.resolveExtension_of_mem _ h.extension_mem
  have hpattern : ensureSingleLine .filePattern
      (Request.patternOr s.extension (some s.filePattern)) = .error fault := by
    obtain hl | ⟨l, hl, he⟩ := (Request.assemble_eq_error_iff s.request fault).mp hrender
    · cases hlanguage.symm.trans hl
    · obtain rfl : s.language = l := Except.ok.inj (hlanguage.symm.trans hl)
      obtain he | ⟨e, he, hp⟩ := he
      · cases hextension.symm.trans he
      · obtain rfl : s.extension = e := Except.ok.inj (hextension.symm.trans he)
        obtain hp | ⟨-, hr | ⟨q, -, hd⟩⟩ := hp
        · exact hp
        · cases hruntime.symm.trans hr
        · cases hdependency.symm.trans hd
  obtain ⟨hcontrol, rfl⟩ := (ensureSingleLine_eq_error_iff _ _ fault).mp hpattern
  rw [h.filePattern] at hcontrol ⊢
  cases hanswered : textIn log "File pattern" with
  | some pattern => exact ⟨pattern, rfl, rfl⟩
  | none =>
    have hdefault : ∀ l : Language, ∀ e ∈ l.extensions,
        Text.hasControl (Request.patternOr e none) = false := by
      intro l
      cases l <;> decide
    rw [hanswered, Option.getD_none,
      Request.patternOr_defaultPattern s.language s.extension h.extension_mem,
      hdefault s.language s.extension h.extension_mem] at hcontrol
    cases hcontrol

/-- What was answered is rendered: the script of the session at the end of any dialogue is that of
the request put together from the answers, with the body that was given: the text of the file that
was chosen is in the log, so it has been read. Only a control character in the file pattern that was
answered is refused, and nothing if the defaults are taken instead of asking. Nothing is left out
that the options do not spare. -/
theorem render_askSession (limit : Nat) (o : PromptOptions) (s : Session) (log : List Happening)
    (h : (askSession limit o).Ends log (.ok s)) :
    languageGiven o log = some s.language ∧
      (∃ body, bodyGiven? o log = some body ∧
        s.render = (requestGiven o s.language log body).assemble) ∧
      (∀ fault, s.render = .error fault →
        ∃ pattern, textIn log "File pattern" = some pattern ∧
          fault = .controlCharacter .filePattern
            (Request.patternOr s.extension (some pattern))) ∧
      (o.yes = true → ∃ snippet, s.render = .ok snippet) ∧
      FieldsAsked o s.language log ∧
      (choiceIn log "Where does the transformation body come from?").isSome =
        (!o.yes && o.body.isNone) := by
  rw [askSession_eq, Run.ends_bind_iff] at h
  obtain ⟨asked, before, after, hbefore, hafter, rfl⟩ := h
  have hfields := ends_askFields o asked before hbefore
  obtain ⟨⟨body, hgiven, hbody⟩, hwayAsked⟩ :=
    ((ends_askBody_iff limit o asked s after hfields.body).mp hafter).bodyTaken hfields.body
  obtain ⟨hlanguage, hasked, hpattern, hgivenAll, hrequest⟩ := answers_append hfields hbody
  obtain ⟨examples, revision, hs⟩ := hbody.taken
  have hrender : s.render = { asked.request with body := body }.assemble := by
    rw [hs]
    rfl
  have hl : s.language = asked.language := by rw [hs]
  have he : s.extension = asked.extension := by rw [hs]
  -- a body is never refused, so a fault is that of the fields
  have hfault : ∀ fault, s.render = .error fault →
      ∃ pattern, textIn before "File pattern" = some pattern ∧
        fault = .controlCharacter .filePattern
          (Request.patternOr asked.extension (some pattern)) := by
    intro fault hfault
    rw [hrender, Request.assemble_withBody] at hfault
    refine render_eq_error hfields ?_
    cases hresult : asked.request.assemble with
    | ok snippet => simp [hresult, Except.map] at hfault
    | error other => simpa [hresult, Except.map] using hfault
  refine ⟨?_, ⟨body, hgivenAll.trans hgiven, ?_⟩, ?_, ?_, ?_, ?_⟩
  · rw [hlanguage, hl]
    exact hfields.language
  · rw [hrender, Request.assemble_withBody, assemble_requestGiven hfields, hl, hrequest,
      ← Request.assemble_withBody]
    rfl
  · rw [hpattern, he]
    exact hfault
  · intro hyes
    cases hresult : s.render with
    | ok snippet => exact ⟨snippet, rfl⟩
    | error fault =>
      obtain ⟨pattern, hsome, -⟩ := hfault fault hresult
      have hspared := hfields.asked.filePattern
      rw [hsome, hyes] at hspared
      cases hspared
  · rw [hl]
    exact hasked
  · rw [hfields.way_append]
    exact hwayAsked

/-- The body is read from a file that was chosen. -/
theorem render_askSession_typeScript :
    let o : PromptOptions := ⟨none, none, none, none, false⟩
    let w : World := ⟨fun _ => .ok [102, 111, 111, 10], fun _ => none, fun _ => .refused⟩
    let keys : List Prompt.Key := [.down, .down, .enter, .down, .enter, .char 'a', .enter,
      .char '1', .char '8', .enter, .enter, .down, .enter, .char 'b', .enter]
    let log := Run.record w ⟨[], some keys⟩ (askSession 1 o)
    let s : Session :=
      ⟨.typeScript, "tsx", "a", "18", "", Examples.initial, "foo", 1⟩
    (askSession 1 o).Ends log (.ok s) ∧ bodyGiven? o log = some "foo" ∧
      s.render =
        (⟨"typescript", some "tsx", some "a", "18", "", "foo"⟩ : Request).assemble := by
  intro o w keys log s
  have hplayed : (Run.play w ⟨[], some keys⟩ (askSession 1 o)).result = .ok s := by rfl
  have hends : (askSession 1 o).Ends log (.ok s) :=
    hplayed ▸ (Run.record_ends w ⟨[], some keys⟩ (askSession 1 o)).1
  have hfoo : bodyGiven? o log = some "foo" := by rfl
  have hrequest : requestGiven o .typeScript log "foo" =
      ⟨"typescript", some "tsx", some "a", "18", "", "foo"⟩ := by rfl
  obtain ⟨-, ⟨body, hgiven, hrender⟩, -⟩ := render_askSession 1 o s log hends
  obtain rfl := Option.some.inj (hgiven.symm.trans hfoo)
  exact ⟨hends, hfoo, hrender.trans (congrArg Request.assemble hrequest)⟩

end Cli
end ScriptPress
