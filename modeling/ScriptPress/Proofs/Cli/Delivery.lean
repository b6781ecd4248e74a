import ScriptPress.Proofs.Cli.Interview
import ScriptPress.Proofs.Run.Sequence
import ScriptPress.Proofs.Service.Reply

/-!
# Examples on the wire

From the files to the payload: `generate` reads its example files in pairs, in the order of the
command line, and what it sends is their texts; the dialogue sends the texts of the files it asked
for. The standard input can be read once, so at most one of the files may be it. Main statement:
`examples_delivered`.
-/
namespace ScriptPress.Cli

/-! ### Reading -/

/-- The paths of pairs of files in the order in which they are read. -/
def readingOrder (files : List (String × String)) : List String :=
  files.flatMap fun file => [file.1, file.2]

theorem readingOrder_zip (inputs expected : List String) (h : inputs.length = expected.length) :
    (readingOrder (inputs.zip expected)).Perm (inputs ++ expected) := by
  induction inputs generalizing expected with
  | nil =>
    obtain rfl : expected = [] := List.eq_nil_of_length_eq_zero h.symm
    exact .refl _
  | cons input inputs ih =>
    cases expected with
    | nil => cases h
    | cons output expected =>
      have hrest := ih expected (Nat.succ.inj h)
      have hsecond : (output :: readingOrder (inputs.zip expected)).Perm
          (output :: (inputs ++ expected)) := hrest.cons output
      exact (hsecond.trans List.perm_middle.symm).cons input

/-- The texts of a pair of files, without the line breaks at their ends. -/
def readPair (text : String → String) (file : String × String) : String × String :=
  (Text.withoutLineEnds (text file.1), Text.withoutLineEnds (text file.2))

theorem content?_afterSources (w : World) (p : Supply) (a b path : String) (rest : List String)
    (hmem : path ∈ rest) (honce : (a :: b :: rest).countP Source.isStandardInput ≤ 1) :
    w.content? ((p.afterSource a).afterSource b) path = w.content? p path := by
  have hcount : Source.isStandardInput path = true → 0 < rest.countP Source.isStandardInput :=
    fun hpath => List.countP_pos_iff.mpr ⟨path, hmem, hpath⟩
  rw [List.countP_cons, List.countP_cons] at honce
  rw [w.content?_afterSource (p.afterSource a) b path, w.content?_afterSource p a path]
  · intro ha
    refine Bool.eq_false_iff.mpr fun hpath => ?_
    have := hcount hpath
    rw [if_pos ha] at honce
    omega
  · intro hb
    refine Bool.eq_false_iff.mpr fun hpath => ?_
    have := hcount hpath
    rw [if_pos hb] at honce
    omega

/-- Readable files are all read, and the run goes on with their texts, pair by pair. -/
theorem play_readSources_bind {α : Type} (w : World) (p : Supply) (files : List (String × String))
    (text : String → String) (next : List (String × String) → Run α)
    (hread : ∀ path ∈ readingOrder files, w.content? p path = some (text path))
    (honce : (readingOrder files).countP Source.isStandardInput ≤ 1) :
    Run.play w p (readSources files >>= next) =
      Run.play w ((readingOrder files).foldl Supply.afterSource p)
        (next (files.map (readPair text))) := by
  induction files generalizing p next with
  | nil => rfl
  | cons file rest ih =>
    obtain ⟨input, expected⟩ := file
    have horder : readingOrder ((input, expected) :: rest) =
        input :: expected :: readingOrder rest := rfl
    rw [horder] at hread honce
    -- the standard input is not among two of the files, so a file holds what it held at the start
    have hinput := hread input List.mem_cons_self
    have hexpected : w.content? (p.afterSource input) expected = some (text expected) := by
      rw [w.content?_afterSource p input expected]
      · exact hread expected (by simp)
      · intro hin
        refine Bool.eq_false_iff.mpr fun hout => ?_
        rw [List.countP_cons, List.countP_cons, if_pos hin, if_pos hout] at honce
        omega
    have hrest : ∀ path ∈ readingOrder rest,
        w.content? ((p.afterSource input).afterSource expected) path = some (text path) := by
      intro path hpath
      rw [content?_afterSources w p input expected path _ hpath honce]
      exact hread path (by simp [hpath])
    have honceRest : (readingOrder rest).countP Source.isStandardInput ≤ 1 := by
      rw [List.countP_cons, List.countP_cons] at honce
      omega
    rw [readSources, Run.bind_assoc, Run.play_source_bind w p input _ _ hinput, Run.bind_assoc,
      Run.play_source_bind w _ expected _ _ hexpected, Run.bind_assoc, horder]
    exact ih _ (fun pairs => next (readPair text (input, expected) :: pairs)) hrest honceRest

/-! ### Sending -/

theorem quiet_warn (texts : List String) : (warn texts).Quiet := by
  induction texts with
  | nil => exact .done ()
  | cons text rest ih => exact .note _ ih

theorem quiet_deliver (output : Option String) (text : String) : (deliver output text).Quiet := by
  cases output with
  | none => exact .print _ (.done ())
  | some path => exact (Run.quiet_write path _).bind fun _ => Run.quiet_tell _

theorem quiet_emit (r : Request) (output : Option String) : (emit r output).Quiet :=
  (Run.quiet_ofFault _).bind fun _ => (quiet_warn _).bind fun _ => quiet_deliver output _

theorem quiet_warnOf (outcome : Except Fault String) : (warnOf outcome).Quiet := by
  cases outcome with
  | ok body => exact .done ()
  | error fault => exact Run.quiet_tell _

theorem quiet_readSources (files : List (String × String)) : (readSources files).Quiet := by
  induction files with
  | nil => exact .done []
  | cons file rest ih =>
    exact (Run.quiet_source file.1).bind fun _ => (Run.quiet_source file.2).bind fun _ =>
      ih.bind fun _ => .done _

/-- The part of `generate` after the example files have been read. -/
def inferAndEmit (f : Fields) (filled : Session) (address : Url) : Run Unit := do
  Run.tell (.status ("Generating snippet via " ++ Service.addressText address))
  let outcome ← Run.post .inferBody address filled.bodyQuery.2.payload
  warnOf outcome
  emit (inferredRequest f filled (Service.bodyOrEmpty outcome)) f.output

theorem exchanges_inferAndEmit (w : World) (p : Supply) (f : Fields) (filled : Session)
    (address : Url) :
    (Run.play w p (inferAndEmit f filled address)).exchanges =
      if Service.canPost address then
        [(⟨address, filled.bodyQuery.2.payload⟩, w.service ⟨address, filled.bodyQuery.2.payload⟩)]
      else [] :=
  Run.exchanges_post_bind w p .inferBody address filled.bodyQuery.2.payload _ fun outcome =>
    (quiet_warnOf outcome).bind fun _ => quiet_emit _ _

/-- Whatever `generate` sends once its options are accepted goes to the address of its language, and
its payload is that of some pairs. -/
theorem exchange_of_generate (w : World) (p : Supply) (f : Fields) (id : String)
    (inputs expected : List String) (endpoint : String) (l : Language) (s : Session)
    (hid : f.language = some id) (hl : Language.resolve id = .ok l)
    (hlength : inputs.length = expected.length) (hs : sessionOf l f.extension = .ok s)
    (sent : Service.Exchange × Service.Reply)
    (h : sent ∈ (Run.play w p (generate f inputs expected endpoint)).exchanges) :
    ∃ e pairs, Service.Endpoint.ofText endpoint = .ok e ∧
      sent.1 = ⟨e.address l .inferBody, (s.withPairs 0 pairs).bodyQuery.2.payload⟩ := by
  rw [generate_eq f id inputs expected endpoint l s hid hl hlength hs] at h
  obtain ⟨pairs, -, hexchanges⟩ | hnone :=
    (quiet_readSources (inputs.zip expected)).exchanges_bind_cases w p _
  · rw [hexchanges, Run.play_ofFault_bind] at h
    cases hendpoint : Service.Endpoint.ofText endpoint with
    | error fault =>
      rw [hendpoint] at h
      cases h
    | ok e =>
      rw [hendpoint] at h
      change sent ∈ (Run.play w _ (inferAndEmit f (s.withPairs 0 pairs) _)).exchanges at h
      rw [exchanges_inferAndEmit] at h
      refine ⟨e, pairs, rfl, ?_⟩
      by_cases hpost : Service.canPost (e.address l .inferBody) = true
      · rw [if_pos hpost] at h
        rw [List.mem_singleton.mp h]
      · rw [if_neg hpost] at h
        cases h
  · rw [hnone] at h
    cases h

/-! ### Delivery -/

/-- What becomes of example pairs in a session: every edit that puts them in hits a pair that is
there, the question for a body holds them all in order, and its answer is taken. -/
structure Kept (s : Session) (pairs : List (String × String)) : Prop where
  edited : s.withPairs 0 pairs = s.run (Session.pairEdits 0 pairs)
  hit : s.allHit (Session.pairEdits 0 pairs) = true
  queried : (s.withPairs 0 pairs).bodyQuery.2 =
    ⟨s.extension, pairs.map Prod.fst, pairs.map Prod.snd⟩
  taken : ∀ body,
    ((s.withPairs 0 pairs).acceptBody (s.withPairs 0 pairs).bodyQuery.1 body).1 = true

theorem kept_of_initial (s : Session) (pairs : List (String × String))
    (h : s.examples = Examples.initial) (hne : pairs ≠ []) : Kept s pairs where
  edited := (Session.run_pairEdits 0 s pairs).symm
  hit := Session.allHit_pairEdits 0 s pairs h
  queried := Session.bodyQuery_withPairs s pairs h hne
  taken := fun body => congrArg Prod.fst ((s.withPairs 0 pairs).acceptBody_revision body)

/-- The options with which `generate` goes on to its files. -/
structure Accepted (f : Fields) (endpoint : String) (l : Language) (s : Session)
    (e : Service.Endpoint) : Prop where
  language : ∃ id, f.language = some id ∧ Language.resolve id = .ok l
  session : sessionOf l f.extension = .ok s
  endpoint : Service.Endpoint.ofText endpoint = .ok e

/-- Example files that can all be read: they pair up, they hold texts, and the standard input is at
most one of them. -/
structure Readable (w : World) (p : Supply) (inputs expected : List String)
    (text : String → String) : Prop where
  paired : inputs.length = expected.length
  texts : ∀ path ∈ inputs ++ expected, w.content? p path = some (text path)
  once : (inputs ++ expected).countP Source.isStandardInput ≤ 1

theorem examples_of_sessionOf (l : Language) (extension : Option String) (s : Session)
    (h : sessionOf l extension = .ok s) : s.examples = Examples.initial := by
  cases extension with
  | none =>
    obtain rfl : Session.start l = s := Except.ok.inj h
    rfl
  | some text =>
    rw [sessionOf, Session.setExtension] at h
    split at h
    · obtain rfl := Except.ok.inj h
      rfl
    · cases h

theorem generate_of_unpaired (f : Fields) (inputs expected : List String) (endpoint : String)
    (h : inputs.length ≠ expected.length) : ∃ r, generate f inputs expected endpoint = .fail r := by
  cases hid : f.language with
  | none =>
    refine ⟨.plain "No language given. Pass --language.", ?_⟩
    simp only [generate, hid, Run.fail_bind]
  | some id =>
    cases hl : Language.resolve id with
    | error fault =>
      exact ⟨_, generate_of_resolve_error f id inputs expected endpoint fault hid hl⟩
    | ok l =>
      refine ⟨unpaired inputs.length expected.length, ?_⟩
      simp only [generate, hid, hl, Run.ofFault, Run.done_bind, if_pos h]

/-- With accepted options and readable files `generate` comes to its exchange. -/
theorem play_generate (w : World) (p : Supply) (f : Fields) (inputs expected : List String)
    (endpoint : String) (l : Language) (s : Session) (e : Service.Endpoint) (text : String → String)
    (hoptions : Accepted f endpoint l s e) (hfiles : Readable w p inputs expected text) :
    Run.play w p (generate f inputs expected endpoint) =
      Run.play w ((readingOrder (inputs.zip expected)).foldl Supply.afterSource p)
        (inferAndEmit f (s.withPairs 0 ((inputs.zip expected).map (readPair text)))
          (e.address l .inferBody)) := by
  obtain ⟨id, hid, hl⟩ := hoptions.language
  have hperm := readingOrder_zip inputs expected hfiles.paired
  have hread : ∀ path ∈ readingOrder (inputs.zip expected), w.content? p path = some (text path) :=
    fun path hpath => hfiles.texts path (hperm.mem_iff.mp hpath)
  have honce : (readingOrder (inputs.zip expected)).countP Source.isStandardInput ≤ 1 := by
    rw [hperm.countP_eq]
    exact hfiles.once
  rw [generate_eq f id inputs expected endpoint l s hid hl hfiles.paired hoptions.session,
    play_readSources_bind w p _ text _ hread honce, hoptions.endpoint]
  rfl

theorem map_readPair (inputs expected : List String) (text : String → String)
    (h : inputs.length = expected.length) :
    ((inputs.zip expected).map (readPair text)).map Prod.fst =
        inputs.map (Text.withoutLineEnds ∘ text) ∧
      ((inputs.zip expected).map (readPair text)).map Prod.snd =
        expected.map (Text.withoutLineEnds ∘ text) := by
  have hfst : Prod.fst ∘ readPair text = (Text.withoutLineEnds ∘ text) ∘ Prod.fst := rfl
  have hsnd : Prod.snd ∘ readPair text = (Text.withoutLineEnds ∘ text) ∘ Prod.snd := rfl
  constructor
  · rw [List.map_map, hfst, ← List.map_map, List.map_fst_zip (Nat.le_of_eq h)]
  · rw [List.map_map, hsnd, ← List.map_map, List.map_snd_zip (Nat.le_of_eq h.symm)]

/-- The exchanges of a log, in order. -/
def sentIn (log : List Happening) : List (Service.Exchange × Service.Reply) :=
  log.filterMap Happening.exchange?

theorem sentIn_append (log later : List Happening) :
    sentIn (log ++ later) = sentIn log ++ sentIn later := List.filterMap_append

theorem sentIn_eq_nil (log : List Happening) (h : exchangeIn log = none) : sentIn log = [] :=
  List.filterMap_eq_nil_iff.mpr (List.findSome?_eq_none_iff.mp h)

theorem sentIn_exchangeLog (exchange : Service.Exchange) (reply : Service.Reply) :
    sentIn (exchangeLog exchange reply) = exchange.posted reply := by
  have hnotes := sentIn_eq_nil _
    (aside_of_notes (inferenceNotes (exchange.outcome .inferBody reply))).no_exchange
  rw [exchangeLog, sentIn_append, hnotes, List.append_nil, Service.Exchange.posted]
  by_cases hpost : Service.canPost exchange.address = true
  · rw [if_pos hpost]
    rfl
  · rw [if_neg hpost]
    rfl

/-- Whether a dialogue is told to have its body inferred and has a service for that. -/
def InfersBody (o : PromptOptions) (log : List Happening) : Prop :=
  o.body = none ∧ choiceIn log "Where does the transformation body come from?" = some 0 ∧
    o.endpoint ≠ none

/-- A dialogue that has its body inferred: the example files are asked for and read right before
the exchange, and what is posted is made of the pairs that were read there. -/
structure Delivered (limit : Nat) (o : PromptOptions) (log : List Happening) (t s : Session)
    (e : Service.Endpoint) (pairs : List (String × String)) (reply : Service.Reply) : Prop where
  no_body : o.body = none
  asking : o.yes = false
  endpoint : ∃ text, o.endpoint = some text ∧ Service.Endpoint.ofText text = .ok e
  log_eq : ∃ fields asked, ∃ way : Fin bodyWays.length, way.val = 0 ∧
    (askFields o).Ends fields (.ok s) ∧ PairLog limit 0 pairs asked ∧
    log = fields ++ .answered bodyQuestion way ::
      (asked ++ exchangeLog (bodyExchange e s pairs) reply)
  session : t = inferred e s pairs reply

/-- Of all ways to a body only the inferred one goes to the service. -/
theorem BodyLog.infers_or_silent {limit : Nat} {o : PromptOptions} {s t : Session}
    {log : List Happening} (h : BodyLog limit o s log t) :
    (InfersBody o log ∧ ∃ (way : Fin bodyWays.length) (rest : List Happening), o.yes = false ∧
      way.val = 0 ∧ InferLog limit o s rest t ∧ log = .answered bodyQuestion way :: rest) ∨
    ¬InfersBody o log ∧ exchangeIn log = none := by
  cases h with
  | given hbody hgives =>
    refine .inr ⟨fun h => ?_, ?_⟩
    · cases hbody.symm.trans h.1
    · rw [exchangeIn_cons, hgives.no_answer.2.2]
      rfl
  | skipped hbody hyes =>
    refine .inr ⟨fun h => ?_, rfl⟩
    cases h.2.1
  | @inferred t rest way hbody hno hway hrest =>
    by_cases hendpoint : o.endpoint = none
    · refine .inr ⟨fun h => h.2.2 hendpoint, ?_⟩
      cases hrest with
      | unasked _ => rfl
      | asked _ hsome => cases hendpoint.symm.trans hsome
    · have hzero := (lookups_way way rest).1
      rw [hway] at hzero
      exact .inl ⟨⟨hbody, hzero, hendpoint⟩, way, rest, hno, hway, hrest, rfl⟩
  | file way hbody hno hway hpath hgives =>
    refine .inr ⟨fun h => ?_, ?_⟩
    · have hzero := Option.some.inj ((lookups_way way _).1.symm.trans h.2.1)
      rw [hway] at hzero
      cases hzero
    · rw [exchangeIn_cons, exchangeIn_cons, exchangeIn_cons, hgives.no_answer.2.2]
      rfl
  | left way hbody hno hzero hone =>
    exact .inr ⟨fun h => hzero (Option.some.inj ((lookups_way way _).1.symm.trans h.2.1)), rfl⟩

theorem InfersBody.append_iff {o : PromptOptions} {s : Session} {before : List Happening}
    (h : FieldsGiven o before s) (after : List Happening) :
    InfersBody o (before ++ after) ↔ InfersBody o after := by
  unfold InfersBody
  rw [h.way_append]

/-- A dialogue that has its body inferred has one of these logs, and any of them can come about. -/
theorem ends_askSession_infers_iff (limit : Nat) (o : PromptOptions) (t : Session)
    (log : List Happening) :
    (askSession limit o).Ends log (.ok t) ∧ InfersBody o log ↔
      ∃ s e pairs reply, Delivered limit o log t s e pairs reply := by
  rw [askSession_eq]
  constructor
  · rintro ⟨h, hinfers⟩
    obtain ⟨s, fields, after, hbefore, hafter, rfl⟩ := (Run.ends_bind_iff _ _ log t).mp h
    have hfields := ends_askFields o s fields hbefore
    obtain ⟨-, way, rest, hno, hway, hrest, rfl⟩ | ⟨hnot, -⟩ :=
      ((ends_askBody_iff limit o s t after hfields.body).mp hafter).infers_or_silent
    · cases hrest with
      | unasked hnone => exact absurd hnone hinfers.2.2
      | @asked text e pairs asked reply htext he hasked =>
        exact ⟨s, e, pairs, reply, hinfers.1, hno, ⟨text, htext, he⟩,
          ⟨fields, asked, way, hway, hbefore, hasked, rfl⟩, rfl⟩
    · exact absurd ((InfersBody.append_iff hfields after).mp hinfers) hnot
  · rintro ⟨s, e, pairs, reply, hbody, hno, ⟨text, htext, he⟩,
      ⟨fields, asked, way, hway, hbefore, hasked, rfl⟩, rfl⟩
    have hfields := ends_askFields o s fields hbefore
    constructor
    · exact hbefore.bind ((ends_askBody_iff limit o s _ _ hfields.body).mpr
        (.inferred way hbody hno hway (.asked reply htext he hasked)))
    · refine (InfersBody.append_iff hfields _).mpr ⟨hbody, ?_, ?_⟩
      · rw [(lookups_way way _).1, hway]
      · rw [htext]
        exact Option.some_ne_none text

theorem sentIn_askSession_eq_nil (limit : Nat) (o : PromptOptions) (t : Session)
    (log : List Happening) (h : (askSession limit o).Ends log (.ok t)) (hnot : ¬InfersBody o log) :
    sentIn log = [] := by
  rw [askSession_eq, Run.ends_bind_iff] at h
  obtain ⟨s, fields, after, hbefore, hafter, rfl⟩ := h
  have hfields := ends_askFields o s fields hbefore
  have hquiet := sentIn_eq_nil fields (lookups_of_concerns hfields.concerns).2.2
  rw [sentIn_append, hquiet, List.nil_append]
  rw [InfersBody.append_iff hfields] at hnot
  obtain ⟨hinfers, -⟩ | ⟨-, hnone⟩ :=
    ((ends_askBody_iff limit o s t after hfields.body).mp hafter).infers_or_silent
  · exact absurd hinfers hnot
  · exact sentIn_eq_nil after hnone

/-- All pairs that a dialogue read are sent, in order, wherever they can be posted to. -/
theorem sentIn_of_delivered {limit : Nat} {o : PromptOptions} {log : List Happening}
    {t s : Session} {e : Service.Endpoint} {pairs : List (String × String)} {reply : Service.Reply}
    (h : Delivered (limit + 1) o log t s e pairs reply) :
    let query : Service.BodyQuery := ⟨s.extension, pairs.map Prod.fst, pairs.map Prod.snd⟩
    let exchange : Service.Exchange := ⟨e.address s.language .inferBody, query.payload⟩
    pairs ≠ [] ∧ Kept s pairs ∧
      sentIn log = if Service.canPost exchange.address then [(exchange, reply)] else [] := by
  intro query exchange
  obtain ⟨fields, asked, way, -, hbefore, hasked, rfl⟩ := h.log_eq
  have hfields := ends_askFields o s fields hbefore
  have hkept := kept_of_initial s pairs hfields.examples hasked.ne_nil
  refine ⟨hasked.ne_nil, hkept, ?_⟩
  have hexchange : bodyExchange e s pairs = exchange := by
    rw [bodyExchange, hkept.queried]
  have hquiet := sentIn_eq_nil fields (lookups_of_concerns hfields.concerns).2.2
  have hsilent := sentIn_eq_nil asked hasked.aside.no_exchange
  have hsent : sentIn (.answered bodyQuestion way ::
      (asked ++ exchangeLog (bodyExchange e s pairs) reply)) =
        sentIn (asked ++ exchangeLog (bodyExchange e s pairs) reply) := rfl
  rw [sentIn_append, hquiet, List.nil_append, hsent, sentIn_append, hsilent, List.nil_append,
    sentIn_exchangeLog, hexchange]
  rfl

/-- No example is lost, doubled, moved or mixed up. `generate` sends the texts of its readable files
in the order of the command line, and does nothing at all with files that do not pair up. A dialogue
that has its body inferred sends the texts of all files that it asked for, unless the address cannot
be posted to, and it can do so with any number of pairs; any other dialogue sends nothing. On the way
every edit hits a pair that is there, and the answer is taken. -/
theorem examples_delivered (w : World) (p : Supply) (f : Fields) (inputs expected : List String)
    (endpoint : String) (limit : Nat) (o : PromptOptions) :
    (inputs.length ≠ expected.length → ∃ r, generate f inputs expected endpoint = .fail r) ∧
    (∀ l s e text, Accepted f endpoint l s e → Readable w p inputs expected text → inputs ≠ [] →
      let pairs := (inputs.zip expected).map (readPair text)
      let query : Service.BodyQuery := ⟨s.extension, inputs.map (Text.withoutLineEnds ∘ text),
        expected.map (Text.withoutLineEnds ∘ text)⟩
      let exchange : Service.Exchange := ⟨e.address l .inferBody, query.payload⟩
      let played := Run.play w p (generate f inputs expected endpoint)
      Kept s pairs ∧
      played = Run.play w ((readingOrder (inputs.zip expected)).foldl Supply.afterSource p)
        (inferAndEmit f (s.withPairs 0 pairs) exchange.address) ∧
      played.exchanges =
        if Service.canPost exchange.address then [(exchange, w.service exchange)] else []) ∧
    (∀ log t, (askSession (limit + 1) o).Ends log (.ok t) ∧ InfersBody o log ↔
      ∃ s e pairs reply, Delivered (limit + 1) o log t s e pairs reply) ∧
    (∀ log t s e pairs reply, Delivered (limit + 1) o log t s e pairs reply →
      let query : Service.BodyQuery := ⟨s.extension, pairs.map Prod.fst, pairs.map Prod.snd⟩
      let exchange : Service.Exchange := ⟨e.address s.language .inferBody, query.payload⟩
      pairs ≠ [] ∧ Kept s pairs ∧
      sentIn log = if Service.canPost exchange.address then [(exchange, reply)] else []) ∧
    ∀ log t, (askSession (limit + 1) o).Ends log (.ok t) → ¬InfersBody o log → sentIn log = [] := by
  refine ⟨generate_of_unpaired f inputs expected endpoint, ?_,
    fun log t => ends_askSession_infers_iff (limit + 1) o t log,
    fun log t s e pairs reply h => sentIn_of_delivered h,
    fun log t => sentIn_askSession_eq_nil (limit + 1) o t log⟩
  intro l s e text hoptions hfiles hne pairs query exchange played
  have hpairs : pairs ≠ [] := by
    intro hnil
    have hlength := congrArg List.length hnil
    rw [List.length_map, List.length_zip, ← hfiles.paired, Nat.min_self] at hlength
    exact hne (List.eq_nil_of_length_eq_zero hlength)
  have hkept := kept_of_initial s pairs (examples_of_sessionOf l f.extension s hoptions.session)
    hpairs
  have hplayed := play_generate w p f inputs expected endpoint l s e text hoptions hfiles
  refine ⟨hkept, hplayed, ?_⟩
  obtain ⟨hinputs, houtputs⟩ := map_readPair inputs expected text hfiles.paired
  have hquery : (s.withPairs 0 pairs).bodyQuery.2 = query := by
    rw [hkept.queried, hinputs, houtputs]
  have hexchanges := congrArg Story.exchanges hplayed
  rw [exchanges_inferAndEmit, hquery] at hexchanges
  exact hexchanges

theorem examples_delivered_ruby :
    let w : World :=
      ⟨fun path => if path = "a" then .ok [97, 10] else .ok [98], fun _ => none, fun _ => .refused⟩
    let f : Fields := ⟨some "rb", none, none, none, none, none⟩
    let s : Session := Session.start .ruby
    let o : PromptOptions := ⟨some "rb", none, some "http://h", none, false⟩
    let keys : List Prompt.Key := [.enter, .enter, .enter, .enter, .char 'a', .enter, .char 'b',
      .enter, .char 'y', .char 'b', .enter, .char 'a', .enter, .enter]
    let log := Run.record w ⟨[], some keys⟩ (askSession 2 o)
    (∃ r, generate f ["a"] [] "http://h" = .fail r) ∧
    (∃ e, Accepted f "http://h" .ruby s e ∧
      (Run.play w ⟨[99, 10], none⟩ (generate f ["a", "-"] ["b", "b"] "http://h")).exchanges =
        [(⟨e.address .ruby .inferBody, (⟨"rb", ["a", "c"], ["b", "b"]⟩ : Service.BodyQuery).payload⟩,
          .refused)]) ∧
    (∃ t s e pairs reply, (askSession 2 o).Ends log (.ok t) ∧
      Delivered 2 o log t s e pairs reply ∧ Kept s pairs ∧ sentIn log ≠ []) ∧
    (sentIn log).map (fun sent => sent.1.payload) =
      [(⟨"rb", ["a", "b"], ["b", "a"]⟩ : Service.BodyQuery).payload] := by
  intro w f s o keys log
  have hdelivered := fun inputs expected =>
    examples_delivered w ⟨[99, 10], none⟩ f inputs expected "http://h" 1 o
  refine ⟨(hdelivered ["a"] []).1 (by decide), ?_, ?_⟩
  · obtain ⟨e, he, hweb⟩ := Service.Endpoint.exists_web "http://h" .ruby .inferBody
      (by decide +kernel)
    have hpost := (Service.canPost_iff _).mpr hweb
    have hoptions : Accepted f "http://h" .ruby s e := ⟨⟨"rb", rfl, rfl⟩, rfl, he⟩
    let text : String → String := fun path =>
      if path = "a" then "a\n" else if path = "-" then "c\n" else "b"
    have hfiles : Readable w ⟨[99, 10], none⟩ ["a", "-"] ["b", "b"] text := by
      refine ⟨rfl, ?_, by decide⟩
      intro path hpath
      simp only [List.cons_append, List.nil_append, List.mem_cons, List.not_mem_nil, or_false]
        at hpath
      obtain rfl | rfl | rfl | rfl := hpath <;> rfl
    have hsent := ((hdelivered ["a", "-"] ["b", "b"]).2.1 .ruby s e text hoptions hfiles
      (by simp)).2.2
    have hends : Text.withoutLineEnds "a\n" = "a" ∧ Text.withoutLineEnds "c\n" = "c" ∧
        Text.withoutLineEnds "b" = "b" := by decide
    have hinputs : ["a", "-"].map (Text.withoutLineEnds ∘ text) = ["a", "c"] := by
      simp [text, hends]
    have hexpected : ["b", "b"].map (Text.withoutLineEnds ∘ text) = ["b", "b"] := by
      simp [text, hends]
    rw [hinputs, hexpected, if_pos hpost] at hsent
    exact ⟨e, hoptions, hsent⟩
  · have hok : (Run.play w ⟨[], some keys⟩ (askSession 2 o)).result.toOption.isSome = true := by
      decide +kernel
    have hpayloads : (sentIn log).map (fun sent => sent.1.payload) =
        [(⟨"rb", ["a", "b"], ["b", "a"]⟩ : Service.BodyQuery).payload] := by decide +kernel
    have hsome : sentIn log ≠ [] := by
      intro hnone
      rw [hnone] at hpayloads
      cases hpayloads
    have hrecord := (Run.record_ends w ⟨[], some keys⟩ (askSession 2 o)).1
    obtain ⟨-, -, hinferred, hsent, hsilent⟩ := hdelivered [] []
    cases hresult : (Run.play w ⟨[], some keys⟩ (askSession 2 o)).result with
    | error r =>
      rw [hresult] at hok
      cases hok
    | ok t =>
      rw [hresult] at hrecord
      have hinfers : InfersBody o log := by
        by_contra hnot
        exact hsome (hsilent log t hrecord hnot)
      obtain ⟨s, e, pairs, reply, h⟩ := (hinferred log t).mp ⟨hrecord, hinfers⟩
      exact ⟨⟨t, s, e, pairs, reply, hrecord, h, (hsent log t s e pairs reply h).2.1, hsome⟩,
        hpayloads⟩

end ScriptPress.Cli
