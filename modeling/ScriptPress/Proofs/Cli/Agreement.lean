import ScriptPress.Proofs.Cli.Delivery
import ScriptPress.Proofs.Language.Spelling
import ScriptPress.Proofs.Request.Assembly

/-!
# Agreement of the commands

`generate` resolves language and extension at once, keeps them in a session with the default
pattern, and lays the options over the request of the session; `render` resolves the options as they
were written. Main statement: with the same options and the same body both make the same script, or
fail alike.
-/
namespace ScriptPress.Cli

theorem sessionOf_eq (l : Language) (extension : Option String) :
    sessionOf l extension = (l.resolveExtension extension).map fun e =>
      Session.fresh l e (if extension.isSome then 1 else 0) := by
  cases extension with
  | none => rfl
  | some text =>
    have hl : (Session.start l).language = l := rfl
    rw [sessionOf, Session.setExtension, hl]
    cases l.resolveExtension (some text) with
    | error fault => rfl
    | ok e => rfl

theorem sessionOf_eq_ok (l : Language) (extension : Option String) (s : Session)
    (h : sessionOf l extension = .ok s) :
    l.resolveExtension extension = .ok s.extension ∧
      ∃ revision, s = Session.fresh l s.extension revision := by
  rw [sessionOf_eq] at h
  cases he : l.resolveExtension extension with
  | error fault =>
    rw [he] at h
    cases h
  | ok e =>
    rw [he] at h
    rw [← Except.ok.inj h]
    exact ⟨rfl, _, rfl⟩

theorem sessionOf_eq_error (l : Language) (extension : Option String) (fault : Fault)
    (h : sessionOf l extension = .error fault) : l.resolveExtension extension = .error fault := by
  rw [sessionOf_eq] at h
  cases he : l.resolveExtension extension with
  | error fault' =>
    rw [he] at h
    exact congrArg Except.error (Except.error.inj h)
  | ok e =>
    rw [he] at h
    cases h

/-! ### Resolved values in place of missing options -/

theorem resolveExtension_orElse (l : Language) (extension : Option String) (e : String)
    (h : l.resolveExtension extension = .ok e) :
    l.resolveExtension (extension <|> some e) = .ok e := by
  cases extension with
  | none => exact l.resolveExtension_of_mem e (l.mem_of_resolveExtension none e h)
  | some text => exact h

theorem patternOr_orElse (l : Language) (e : String) (h : e ∈ l.extensions)
    (filePattern : Option String) :
    Request.patternOr e (filePattern <|> some (Language.defaultPattern e)) =
      Request.patternOr e filePattern := by
  cases filePattern with
  | none => exact Request.patternOr_defaultPattern l e h
  | some given => rfl

/-- A request is assembled as before when its extension and pattern, where they are missing, are
replaced by what they are resolved to. -/
theorem assemble_resolved (r : Request) (l : Language) (e : String)
    (hl : Language.resolve r.language = .ok l) (he : l.resolveExtension r.extension = .ok e) :
    Request.assemble { r with
      extension := r.extension <|> some e
      filePattern := r.filePattern <|> some (Language.defaultPattern e) } = r.assemble := by
  apply Request.assemble_congr
  · rfl
  · intro l' hl'
    have hll : l = l' := Except.ok.inj (hl.symm.trans hl')
    rw [← hll, he]
    exact resolveExtension_orElse l r.extension e he
  · intro l' e' hl' he'
    have hll : l = l' := Except.ok.inj (hl.symm.trans hl')
    rw [← hll] at he'
    have hee : e = e' := Except.ok.inj (he.symm.trans he')
    rw [← hee]
    exact patternOr_orElse l e (l.mem_of_resolveExtension r.extension e he) r.filePattern
  · rfl
  · rfl
  · rfl

/-! ### The two requests -/

theorem inferredRequest_withPairs (f : Fields) (id body : String) (pairs : List (String × String))
    (l : Language) (s : Session) (hid : f.language = some id)
    (hs : sessionOf l f.extension = .ok s) :
    inferredRequest f (s.withPairs 0 pairs) body = { givenRequest f body with
      extension := (givenRequest f body).extension <|> some s.extension
      filePattern := (givenRequest f body).filePattern <|>
        some (Language.defaultPattern s.extension) } := by
  obtain ⟨-, revision, hfresh⟩ := sessionOf_eq_ok l f.extension s hs
  obtain ⟨examples, revision', hfilled⟩ := Session.withPairs_frame 0 s pairs
  rw [inferredRequest_eq, hfilled, hfresh]
  simp [givenRequest, Fields.over, Session.request, Session.fresh, Request.blank, hid]

theorem givenRequest_language (f : Fields) (id body : String) (hid : f.language = some id) :
    (givenRequest f body).language = id := by
  simp [givenRequest, Fields.over, hid]

theorem givenRequest_extension (f : Fields) (body : String) :
    (givenRequest f body).extension = f.extension := by
  simp [givenRequest, Fields.over, Request.blank]

theorem assemble_inferredRequest (f : Fields) (id body : String) (pairs : List (String × String))
    (l : Language) (s : Session) (hid : f.language = some id) (hl : Language.resolve id = .ok l)
    (hs : sessionOf l f.extension = .ok s) :
    (inferredRequest f (s.withPairs 0 pairs) body).assemble = (givenRequest f body).assemble := by
  rw [inferredRequest_withPairs f id body pairs l s hid hs]
  apply assemble_resolved (givenRequest f body) l s.extension
  · rw [givenRequest_language f id body hid]
    exact hl
  · rw [givenRequest_extension]
    exact (sessionOf_eq_ok l f.extension s hs).1

/-- The script of a request has the language and the extension of the session that the same options
make. -/
theorem fields_of_assemble_givenRequest (f : Fields) (id body : String) (l : Language) (s : Session)
    (hid : f.language = some id) (hl : Language.resolve id = .ok l)
    (hs : sessionOf l f.extension = .ok s) {snippet : Snippet}
    (h : (givenRequest f body).assemble = .ok snippet) :
    snippet.language = l ∧ snippet.extension = s.extension := by
  obtain ⟨hsl, hse, -⟩ := (Request.assemble_eq_ok_iff _ snippet).mp h
  rw [givenRequest_language f id body hid, hl] at hsl
  have hll : l = snippet.language := Except.ok.inj hsl
  rw [givenRequest_extension, ← hll, (sessionOf_eq_ok l f.extension s hs).1] at hse
  exact ⟨hll.symm, (Except.ok.inj hse).symm⟩

/-- For the same options, `generate` and `render` make the same script of the same body or report
the same fault, whatever the examples are. Both commands emit a request in the end: `render` that of
the options and its body file, `generate` that of a session with the examples and the answer of the
service, and the two are assembled alike. What `generate` sends goes to the address for the language
of the script, and its payload names the extension of the script. -/
theorem generate_agrees_with_render (f : Fields) (id : String) (files : List (String × String))
    (endpoint : String) (hid : f.language = some id) (hblank : Text.trimmed id ≠ "") :
    let generated := generate f (files.map Prod.fst) (files.map Prod.snd) endpoint
    (∀ path, render f ⟨none, some path⟩ =
      (Run.source path >>= fun body => emit (givenRequest f body) f.output)) ∧
    (∀ fault, Language.resolve id = .error fault →
      generated = .fail (.ofFault fault) ∧ ∀ body, (givenRequest f body).assemble = .error fault) ∧
    ∀ l, Language.resolve id = .ok l →
      (∀ fault, sessionOf l f.extension = .error fault →
        generated = .fail (.ofFault fault) ∧
          ∀ body, (givenRequest f body).assemble = .error fault) ∧
      ∀ s, sessionOf l f.extension = .ok s →
        generated = (do
          let pairs ← readSources files
          let e ← Run.ofFault (Service.Endpoint.ofText endpoint)
          let address := e.address l .inferBody
          Run.tell (.status ("Generating snippet via " ++ Service.addressText address))
          let outcome ← Run.post .inferBody address (s.withPairs 0 pairs).bodyQuery.2.payload
          warnOf outcome
          emit (inferredRequest f (s.withPairs 0 pairs) (Service.bodyOrEmpty outcome)) f.output) ∧
        (∀ pairs body, (inferredRequest f (s.withPairs 0 pairs) body).assemble =
          (givenRequest f body).assemble) ∧
        ∀ body snippet, (givenRequest f body).assemble = .ok snippet →
          snippet.language = l ∧
          (∀ pairs, snippet.extension = (s.withPairs 0 pairs).bodyQuery.2.extension) ∧
          ∀ w p, ∀ sent ∈ (Run.play w p generated).exchanges, ∃ e query,
            Service.Endpoint.ofText endpoint = .ok e ∧
            sent.1 = ⟨e.address snippet.language .inferBody, Service.BodyQuery.payload query⟩ ∧
            query.extension = snippet.extension := by
  intro generated
  have hlength : (files.map Prod.fst).length = (files.map Prod.snd).length := by
    rw [List.length_map, List.length_map]
  have hzip : (files.map Prod.fst).zip (files.map Prod.snd) = files := by
    rw [List.zip_map', List.map_id']
  have hlanguage := fun body => givenRequest_language f id body hid
  have hextension := givenRequest_extension f
  refine ⟨fun path => render_eq f id path hid hblank, fun fault hfault => ⟨?_, fun body => ?_⟩,
    fun l hl => ⟨fun fault hs => ⟨?_, fun body => ?_⟩, fun s hs => ⟨?_, fun pairs body => ?_,
      fun body snippet hsnippet => ?_⟩⟩⟩
  · exact generate_of_resolve_error f id _ _ endpoint fault hid hfault
  · rw [← hlanguage body] at hfault
    exact Request.assemble_of_resolve_error _ fault hfault
  · exact generate_of_session_error f id _ _ endpoint l fault hid hl hlength hs
  · have he := sessionOf_eq_error l f.extension fault hs
    rw [← hlanguage body] at hl
    rw [← hextension body] at he
    exact Request.assemble_of_resolveExtension_error _ l fault hl he
  · have heq := generate_eq f id _ _ endpoint l s hid hl hlength hs
    rw [hzip] at heq
    exact heq
  · exact assemble_inferredRequest f id body pairs l s hid hl hs
  · obtain ⟨hsl, hse⟩ := fields_of_assemble_givenRequest f id body l s hid hl hs hsnippet
    have hquery : ∀ pairs, (s.withPairs 0 pairs).bodyQuery.2.extension = s.extension := by
      intro pairs
      obtain ⟨examples, revision, hfilled⟩ := Session.withPairs_frame 0 s pairs
      rw [hfilled]
      rfl
    refine ⟨hsl, fun pairs => hse.trans (hquery pairs).symm, fun w p sent hsent => ?_⟩
    obtain ⟨e, pairs, he, hexchange⟩ :=
      exchange_of_generate w p f id _ _ endpoint l s hid hl hlength hs sent hsent
    refine ⟨e, _, he, ?_, (hquery pairs).trans hse.symm⟩
    rw [hexchange, hsl]

theorem generate_agrees_with_render_typeScript :
    let f : Fields := ⟨some "TS", some ".TSX", none, some "18", none, none⟩
    let s : Session := Session.fresh .typeScript "tsx" 1
    let w : World := ⟨fun path => .ok (if path = "a" then [97] else [98]), fun _ => none,
      fun _ => .refused⟩
    let played := Run.play w ⟨[], none⟩ (generate f ["a", "c"] ["b", "d"] "http://h")
    Text.trimmed "TS" ≠ "" ∧ Language.resolve "TS" = .ok .typeScript ∧
    sessionOf .typeScript f.extension = .ok s ∧
    render f ⟨none, some "e"⟩ =
      (Run.source "e" >>= fun body => emit (givenRequest f body) none) ∧
    (inferredRequest f (s.withPairs 0 [("a", "b"), ("c", "d")]) "e").assemble =
      (givenRequest f "e").assemble ∧
    played.exchanges.length = 1 ∧
    ∃ snippet, (givenRequest f "e").assemble = .ok snippet ∧ ∀ sent ∈ played.exchanges, ∃ e query,
      Service.Endpoint.ofText "http://h" = .ok e ∧
      sent.1 = ⟨e.address snippet.language .inferBody, Service.BodyQuery.payload query⟩ ∧
      query.extension = snippet.extension := by
  intro f s w played
  have hblank : Text.trimmed "TS" ≠ "" := by decide
  have hresolved : Language.resolve "TS" = .ok .typeScript := by rfl
  have hs : sessionOf .typeScript f.extension = .ok s := by rfl
  obtain ⟨hrender, -, hagree⟩ := generate_agrees_with_render f "TS" [("a", "b"), ("c", "d")]
    "http://h" rfl hblank
  obtain ⟨-, hsession⟩ := hagree .typeScript hresolved
  obtain ⟨-, hsame, hsent⟩ := hsession s hs
  have hone : played.exchanges.length = 1 := by decide +kernel
  obtain ⟨snippet, hassembled⟩ := Request.exists_script (givenRequest f "e") (by decide +kernel)
  exact ⟨hblank, hresolved, hs, hrender "e", hsame _ "e", hone, snippet, hassembled,
    (hsent "e" snippet hassembled).2.2 w ⟨[], none⟩⟩

/-! ### The runs -/

theorem generate_emits_given (f : Fields) (id : String) (inputs expected : List String)
    (endpoint : String) (l : Language) (s : Session) (hid : f.language = some id)
    (hl : Language.resolve id = .ok l) (hlength : inputs.length = expected.length)
    (hs : sessionOf l f.extension = .ok s) :
    generate f inputs expected endpoint = (do
      let pairs ← readSources (inputs.zip expected)
      let e ← Run.ofFault (Service.Endpoint.ofText endpoint)
      let address := e.address l .inferBody
      Run.tell (.status ("Generating snippet via " ++ Service.addressText address))
      let outcome ← Run.post .inferBody address (s.withPairs 0 pairs).bodyQuery.2.payload
      warnOf outcome
      emit (givenRequest f (Service.bodyOrEmpty outcome)) f.output) := by
  have hemit : ∀ pairs body, emit (inferredRequest f (s.withPairs 0 pairs) body) f.output =
      emit (givenRequest f body) f.output := by
    intro pairs body
    rw [emit, emit, assemble_inferredRequest f id body pairs l s hid hl hs]
  rw [generate_eq f id inputs expected endpoint l s hid hl hlength hs]
  simp only [hemit]

end ScriptPress.Cli
