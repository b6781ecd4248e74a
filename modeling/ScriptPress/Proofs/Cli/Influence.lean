import ScriptPress.Proofs.Cli.Agreement
import ScriptPress.Proofs.Cli.Delivery
import ScriptPress.Proofs.Cli.Results
import ScriptPress.Proofs.Request.Refusal
import ScriptPress.Proofs.Service.Reply

/-!
# What the service can influence

`generate` asks a service that may do whatever it likes. Here the service is taken out of the world
and varied: all that it can change is the body of the script. Main statement:
`service_influences_body_alone`, about one service and about any two of them.
-/
namespace ScriptPress

/-! ### Scripts that differ in their bodies -/

def Snippet.linesBefore (s : Snippet) : List Script.Line :=
  Script.openingLines (Script.Frame.ofFamily s.language.family)
    ⟨s.filePattern, s.runtime, s.dependency, ""⟩

def Snippet.linesAfter (s : Snippet) : List Script.Line :=
  (Script.Frame.ofFamily s.language.family).closing.map String.toList

namespace Request

theorem splitOn_text {r : Request} {s : Snippet} (h : r.assemble = .ok s) :
    Text.splitOn '\n' s.text.toList = s.linesBefore ++ Script.bodyLines r.body ++ s.linesAfter := by
  obtain ⟨-, -, -, -, -, -, htext⟩ := (assemble_eq_ok_iff r s).mp h
  rw [htext, Script.splitOn_combine]
  rfl

/-- Two bodies of one request: both scripts have the same resolved fields and warnings and the same
lines around their bodies, or neither is assembled, for the same fault. -/
def AlikeOutside (r : Request) (body other : String) : Prop :=
  (∃ s t before after, assemble { r with body := body } = .ok s ∧
      assemble { r with body := other } = .ok t ∧ s.SameFields t ∧
      Text.splitOn '\n' s.text.toList = before ++ Script.bodyLines body ++ after ∧
      Text.splitOn '\n' t.text.toList = before ++ Script.bodyLines other ++ after) ∨
    ∃ fault, assemble { r with body := body } = .error fault ∧
      assemble { r with body := other } = .error fault

theorem alikeOutside (r : Request) (body other : String) : r.AlikeOutside body other := by
  obtain ⟨s, t, hs, ht, hsame⟩ | hfault := sameFields_of_withBody { r with body := body } other
  · have hbefore : t.linesBefore = s.linesBefore := by
      rw [Snippet.linesBefore, Snippet.linesBefore, hsame.language, hsame.filePattern,
        hsame.runtime, hsame.dependency]
    have hafter : t.linesAfter = s.linesAfter := by
      rw [Snippet.linesAfter, Snippet.linesAfter, hsame.language]
    have hone := splitOn_text hs
    have hother := splitOn_text ht
    rw [hbefore, hafter] at hother
    exact .inl ⟨s, t, s.linesBefore, s.linesAfter, hs, ht, hsame, hone, hother⟩
  · exact .inr hfault

end Request

namespace Cli

open Service (Exchange Reply)

/-! ### Reading without a trace -/

theorem events_readSources (w : World) (p : Supply) (files : List (String × String)) :
    (Run.play w p (readSources files)).events = [] := by
  induction files generalizing p with
  | nil => rfl
  | cons file rest ih =>
    have hpairs : ∀ q before after, (Run.play w q
        (readSources rest >>= fun pairs => pure ((before, after) :: pairs))).events = [] := by
      intro q before after
      exact Run.events_play_bind_eq_nil (ih q) fun _ _ => rfl
    exact Run.events_play_bind_eq_nil (Run.play_source w p file.1).1 fun before q =>
      Run.events_play_bind_eq_nil (Run.play_source w q file.2).1 fun after q => hpairs q before after

/-! ### Asking -/

/-- What comes of an exchange with a service; to an address that is not of the web nothing is
sent. -/
def outcomeOf (service : Exchange → Reply) (exchange : Exchange) : Except Fault String :=
  exchange.outcome .inferBody (service exchange)

def failureEvents : Except Fault String → List Event
  | .ok _ => []
  | .error fault => [.noted (.warning fault.message)]

/-- What is seen while a service is asked: a note, the exchange, and a warning if it failed. -/
def askingEvents (service : Exchange → Reply) (exchange : Exchange) (n : Note) : List Event :=
  .noted n :: ((if Service.canPost exchange.address then [.sent exchange (service exchange)] else []) ++
    failureEvents (outcomeOf service exchange))

/-- The body that a service accounts for: the one its reply stands for, or the empty one if it is
not asked. -/
def Inferred (service : Exchange → Reply) (exchange : Exchange) (body : String) : Prop :=
  (Service.IsWebAddress exchange.address → (service exchange).StandsFor body) ∧
    (¬Service.IsWebAddress exchange.address → body = "")

theorem inferred_iff (service : Exchange → Reply) (exchange : Exchange) (body : String) :
    Inferred service exchange body ↔
      body = Service.bodyOrEmpty (outcomeOf service exchange) := by
  unfold Inferred outcomeOf Exchange.outcome
  by_cases hweb : Service.IsWebAddress exchange.address
  · have hpost := (Service.canPost_iff _).mpr hweb
    rw [if_pos hpost, ← Reply.standsFor_iff]
    simp [hweb]
  · have hpost := mt (Service.canPost_iff _).mp hweb
    rw [if_neg hpost]
    simp [hweb, Service.bodyOrEmpty]

theorem remains_asking (service : Exchange → Reply) (exchange : Exchange) (n : Note)
    (x : Except Report Unit) : Story.remains ⟨x, askingEvents service exchange n⟩ = .nothing := by
  unfold askingEvents
  cases Service.canPost exchange.address with
  | false =>
    cases outcomeOf service exchange with
    | ok body => rfl
    | error fault => rfl
  | true =>
    cases outcomeOf service exchange with
    | ok body => rfl
    | error fault => rfl

theorem play_warnOf_bind {α : Type} (w : World) (p : Supply) (outcome : Except Fault String)
    (next : Unit → Run α) :
    Run.play w p (warnOf outcome >>= next) =
      (Run.play w p (next ())).precededBy (failureEvents outcome) := by
  cases outcome with
  | ok body => rfl
  | error fault => rfl

theorem play_asking_bind {α : Type} (w : World) (p : Supply) (exchange : Exchange) (n : Note)
    (next : Except Fault String → Run α) :
    Run.play w p (do
        Run.tell n
        let outcome ← Run.post .inferBody exchange.address exchange.payload
        warnOf outcome
        next outcome) =
      (Run.play w p (next (outcomeOf w.service exchange))).precededBy
        (askingEvents w.service exchange n) := by
  show (Run.play w p (Run.post .inferBody exchange.address exchange.payload >>= _)).after _ = _
  rw [Run.play_post_bind]
  unfold askingEvents outcomeOf Exchange.outcome
  cases Service.canPost exchange.address with
  | true =>
    simp only [if_true, play_warnOf_bind]
    rfl
  | false =>
    simp only [Bool.false_eq_true, if_false, play_warnOf_bind]
    rfl

/-! ### The command -/

/-- Once options and example files are accepted, `generate` asks the service and emits a script with
the body that the service accounts for, whatever the service does. -/
theorem play_generate_withService (w : World) (p : Supply) (f : Fields)
    (inputs expected : List String) (endpoint : String) (l : Language) (s : Session)
    (e : Service.Endpoint) (pairs : List (String × String)) (hoptions : Accepted f endpoint l s e)
    (hpaired : inputs.length = expected.length)
    (hread : (Run.play w p (readSources (inputs.zip expected))).result = .ok pairs)
    (service : Exchange → Reply) (body : String)
    (hbody : Inferred service ⟨e.address l .inferBody, (s.withPairs 0 pairs).bodyQuery.2.payload⟩
      body) :
    Run.play (w.withService service) p (generate f inputs expected endpoint) =
      let exchange : Exchange :=
        ⟨e.address l .inferBody, (s.withPairs 0 pairs).bodyQuery.2.payload⟩
      (Run.play w p (emit (givenRequest f body) f.output)).precededBy (askingEvents service exchange
        (.status ("Generating snippet via " ++ Service.addressText exchange.address))) := by
  obtain ⟨id, hid, hl⟩ := hoptions.language
  have hendpoint : Run.ofFault (Service.Endpoint.ofText endpoint) = .done e := by
    rw [hoptions.endpoint]
    rfl
  have hquiet := (quiet_readSources (inputs.zip expected)).play_withService w p service
  have hevents := events_readSources w p (inputs.zip expected)
  rw [← hquiet.1] at hread hevents
  have hemit : ∀ q, Run.play (w.withService service) q (emit (givenRequest f body) f.output) =
      Run.play w p (emit (givenRequest f body) f.output) := by
    intro q
    rw [((quiet_emit _ _).play_withService w q service).1, play_emit, play_emit]
  rw [generate_emits_given f id inputs expected endpoint l s hid hl hpaired hoptions.session,
    Run.play_bind_unseen hread hevents]
  simp only [hendpoint, Run.done_bind]
  rw [play_asking_bind (w.withService service) _
    ⟨e.address l .inferBody, (s.withPairs 0 pairs).bodyQuery.2.payload⟩]
  have hservice : (w.withService service).service = service := rfl
  simp only [hservice, ← (inferred_iff service _ body).mp hbody, hemit]

/-- The service can influence nothing but the body. Whatever it does, there is one body that it
accounts for, which is the result of its answer if that is a success that can be read and tells of
no error, and else empty; and `generate` ends and leaves what it would if the same fields were
emitted with that body, after a note, the exchange and perhaps a warning. So it ends well exactly if
the fields make a script that can go where it should, and then leaves the script with that body and
nothing else; any two services give the same end, the same resolved fields and warnings about them,
and the same lines around the body. -/
theorem service_influences_body_alone (w : World) (p : Supply) (f : Fields)
    (inputs expected : List String) (endpoint : String) (l : Language) (s : Session)
    (e : Service.Endpoint) (pairs : List (String × String)) (hoptions : Accepted f endpoint l s e)
    (hpaired : inputs.length = expected.length)
    (hread : (Run.play w p (readSources (inputs.zip expected))).result = .ok pairs) :
    let exchange : Exchange :=
      ⟨e.address l .inferBody, (s.withPairs 0 pairs).bodyQuery.2.payload⟩
    let note : Note := .status ("Generating snippet via " ++ Service.addressText exchange.address)
    let played := fun service =>
      Run.play (w.withService service) p (generate f inputs expected endpoint)
    let emitted := fun body => Run.play w p (emit (givenRequest f body) f.output)
    (∀ service, ∃ body, Inferred service exchange body) ∧
    (∀ service body, Inferred service exchange body →
      played service = (emitted body).precededBy (askingEvents service exchange note) ∧
        (played service).remains = (emitted body).remains ∧
        ((played service).result = .ok () → ∃ snippet,
          (givenRequest f body).assemble = .ok snippet ∧
          (played service).remains = .ofText "" f.output snippet.text)) ∧
    (∀ service, (played service).result = .ok () ↔
      (∃ snippet, (givenRequest f "").assemble = .ok snippet) ∧ w.CanTake f.output) ∧
    ∀ service other body body', Inferred service exchange body → Inferred other exchange body' →
      (played service).result = (played other).result ∧
        (givenRequest f "").AlikeOutside body body' := by
  intro exchange note played emitted
  have hinferred : ∀ service, ∃ body, Inferred service exchange body :=
    fun service => ⟨_, (inferred_iff service exchange _).mpr rfl⟩
  have hplayed : ∀ service body, Inferred service exchange body →
      played service = (emitted body).precededBy (askingEvents service exchange note) :=
    fun service body hbody => play_generate_withService w p f inputs expected endpoint l s e pairs
      hoptions hpaired hread service body hbody
  have hresult : ∀ service body, Inferred service exchange body →
      (played service).result = (emitted "").result := by
    intro service body hbody
    have hsame : (emitted body).result = (emitted "").result :=
      result_emit_withBody w p (givenRequest f "") body f.output
    rw [hplayed service body hbody, Story.result_precededBy]
    exact hsame
  refine ⟨hinferred, ?_, ?_, ?_⟩
  · intro service body hbody
    have hstory := hplayed service body hbody
    have hremains : (played service).remains = (emitted body).remains := by
      rw [hstory]
      exact Story.remains_precededBy _ (remains_asking service exchange note (.ok ()))
    refine ⟨hstory, hremains, fun hok => ?_⟩
    rw [hstory, Story.result_precededBy] at hok
    rw [hremains]
    exact remains_of_emit_eq_ok hok
  · intro service
    obtain ⟨body, hbody⟩ := hinferred service
    rw [hresult service body hbody]
    exact play_emit_eq_ok_iff w p (givenRequest f "") f.output
  · intro service other body body' hbody hother
    have hsame := (hresult service body hbody).trans (hresult other body' hother).symm
    exact ⟨hsame, (givenRequest f "").alikeOutside body body'⟩

/-- A service that answers and a connection that is refused. -/
theorem service_influences_body_alone_ruby :
    let w : World := ⟨fun path => if path = "a" then .ok [97] else .ok [98], fun _ => none,
      fun _ => .refused⟩
    let f : Fields := ⟨some "rb", none, none, some "3", none, none⟩
    let answering : Exchange → Reply :=
      fun _ => .answered 200 (Text.utf8 "\x7b\"snippet\":\"x\"\x7d")
    let played := fun service => Run.play (w.withService service) ⟨[], none⟩
      (generate f ["a"] ["b"] "http://h")
    let emitted := fun body => Run.play w ⟨[], none⟩ (emit (givenRequest f body) none)
    (∃ e, Accepted f "http://h" .ruby (Session.start .ruby) e) ∧
    (Run.play w ⟨[], none⟩ (readSources [("a", "b")])).result = .ok [("a", "b")] ∧
    (played answering).remains = (emitted "x").remains ∧
    (played fun _ => .refused).remains = (emitted "").remains ∧
    (played answering).result = (played fun _ => .refused).result := by
  intro w f answering played emitted
  obtain ⟨e, he, hweb⟩ := Service.Endpoint.exists_web "http://h" .ruby .inferBody
    (by decide +kernel)
  have hoptions : Accepted f "http://h" .ruby (Session.start .ruby) e := ⟨⟨"rb", rfl, rfl⟩, rfl, he⟩
  have hread : (Run.play w ⟨[], none⟩ (readSources [("a", "b")])).result = .ok [("a", "b")] := by rfl
  obtain ⟨-, hplayed, -, hpair⟩ := service_influences_body_alone w ⟨[], none⟩ f ["a"] ["b"] "http://h"
    .ruby (Session.start .ruby) e [("a", "b")] hoptions rfl hread
  have hanswer : Service.Answer.ofBytes? .inferBody (Text.utf8 "\x7b\"snippet\":\"x\"\x7d") =
      some ⟨some "x", none⟩ := by decide +kernel
  have hanswering : Inferred answering ⟨e.address .ruby .inferBody,
      ((Session.start .ruby).withPairs 0 [("a", "b")]).bodyQuery.2.payload⟩ "x" :=
    ⟨fun _ => .inl ⟨200, _, _, rfl, by decide, hanswer, .inl rfl, rfl⟩, fun hnot => absurd hweb hnot⟩
  have hrefused : Inferred (fun _ => .refused) ⟨e.address .ruby .inferBody,
      ((Session.start .ruby).withPairs 0 [("a", "b")]).bodyQuery.2.payload⟩ "" :=
    ⟨fun _ => .inr ⟨rfl, Reply.not_gives_refused .inferBody⟩, fun _ => rfl⟩
  exact ⟨⟨e, hoptions⟩, hread, (hplayed answering "x" hanswering).2.1,
    (hplayed _ "" hrefused).2.1,
    (hpair answering _ "x" "" hanswering hrefused).1⟩

end Cli
end ScriptPress
