import ScriptPress.Proofs.Cli.Delivery
import ScriptPress.Proofs.Cli.Overlay
import ScriptPress.Proofs.Cli.Results
import ScriptPress.Proofs.Service.Reply

/-!
# Trying a script

`try` does everything that needs no service first: it puts the request together, assembles it, reads
the source and the endpoint. What comes of that is a `Trial`. Main statement:
`trial_posts_what_it_rendered`; there is one exchange if all of the preparation succeeds and none
otherwise, and the run succeeds exactly if the service gives an output that can go where it should.
-/
namespace ScriptPress

/-! ### The request -/

/-- The request of a request file, or the blank one when no file is named. -/
def World.base? (w : World) : Option String → Option Request
  | none => some Request.blank
  | some path => (Request.ofFile path (w.file path)).toOption

/-- The request file, the options over it, and the body file, if both files can be loaded. -/
def World.merged? (w : World) (p : Supply) (f : Cli.Fields) (s : Cli.Sources) : Option Request :=
  (w.base? s.request).bind fun base =>
    match s.body with
    | none => some (f.over base)
    | some path => (w.content? p path).map fun text =>
      { f.over base with body := Text.withoutLineEnds text }

namespace Cli

/-- What is left when the body file, if there is one, has been read. -/
def afterBodyFile (p : Supply) (s : Sources) : Supply := s.body.elim p p.afterSource

theorem namesLanguage_of_assemble {r : Request} {snippet : Snippet}
    (h : r.assemble = .ok snippet) : namesLanguage r = true := by
  have hresolve := ((Request.assemble_eq_ok_iff r snippet).mp h).1
  refine decide_eq_true fun hblank => ?_
  have htrim : Text.trim r.language.toList = [] := by
    rw [← Text.toList_trimmed, hblank]
    rfl
  rw [Language.resolve, Language.ofId?, htrim] at hresolve
  cases hresolve

theorem play_completed_cases {α : Type} (w : World) (p : Supply) (f : Fields) (s : Sources)
    (base : Request) (hbase : w.base? s.request = some base) (next : Request → Run α) :
    (∃ r, w.merged? p f s = some r ∧ Run.play w p (completed f s.body base >>= next) =
      Run.play w (afterBodyFile p s) (next r)) ∨
    (∀ r, w.merged? p f s = some r → ∀ snippet, r.assemble ≠ .ok snippet) ∧
      ∃ report, Run.play w p (completed f s.body base >>= next) = ⟨.error report, []⟩ := by
  have hmerged : ∀ r, w.merged? p f s = some r → r.language = (f.over base).language := by
    intro r hr
    rw [World.merged?, hbase, Option.bind_some] at hr
    cases hbody : s.body with
    | none =>
      rw [hbody] at hr
      rw [← Option.some.inj hr]
    | some path =>
      rw [hbody] at hr
      obtain ⟨text, -, htext⟩ := Option.map_eq_some_iff.mp hr
      rw [← htext]
  unfold completed
  cases hnamed : namesLanguage (f.over base) with
  | false =>
    refine .inr ⟨fun r hr snippet hassembled => ?_, noLanguage, rfl⟩
    have hlanguage := namesLanguage_of_assemble hassembled
    rw [namesLanguage, hmerged r hr, ← namesLanguage, hnamed] at hlanguage
    cases hlanguage
  | true =>
    simp only [Bool.not_true, Bool.false_eq_true, if_false]
    unfold World.merged? afterBodyFile
    rw [hbase, Option.bind_some]
    cases s.body with
    | none => exact .inl ⟨_, rfl, rfl⟩
    | some path =>
      dsimp only
      rw [Run.bind_assoc]
      obtain ⟨text, htext, hplay⟩ | ⟨hnone, report, hplay⟩ := Run.play_source_bind_cases w p path
        fun text => next { f.over base with body := text }
      · refine .inl ⟨{ f.over base with body := Text.withoutLineEnds text }, ?_, hplay⟩
        rw [htext, Option.map_some]
      · refine .inr ⟨fun r hr => ?_, report, hplay⟩
        rw [hnone] at hr
        cases hr

theorem requestOf_blank_eq (f : Fields) (body : Option String) :
    requestOf f ⟨none, body⟩ = completed f body Request.blank := by
  -- rewriting keeps unification from computing with the blank request
  simp only [requestOf, Run.done_bind]
  rfl

theorem play_requestOf_cases {α : Type} (w : World) (p : Supply) (f : Fields) (s : Sources)
    (next : Request → Run α) :
    (∃ r, w.merged? p f s = some r ∧ Run.play w p (requestOf f s >>= next) =
      Run.play w (afterBodyFile p s) (next r)) ∨
    (∀ r, w.merged? p f s = some r → ∀ snippet, r.assemble ≠ .ok snippet) ∧
      ∃ report, Run.play w p (requestOf f s >>= next) = ⟨.error report, []⟩ := by
  obtain ⟨request, body⟩ := s
  cases request with
  | none =>
    rw [requestOf_blank_eq]
    exact play_completed_cases w p f ⟨none, body⟩ Request.blank rfl next
  | some path =>
    have hplay := play_requestOf_file w p f path body next
    cases hfile : Request.ofFile path (w.file path) with
    | ok base =>
      have hbase : w.base? (some path) = some base := by
        rw [World.base?, hfile]
        rfl
      rw [hplay, hfile, Run.ofReport, Run.done_bind]
      exact play_completed_cases w p f ⟨some path, body⟩ base hbase next
    | error report =>
      have hbase : w.base? (some path) = none := by
        rw [World.base?, hfile]
        rfl
      refine .inr ⟨fun r hr => ?_, report, ?_⟩
      · rw [World.merged?, hbase] at hr
        cases hr
      · rw [hplay, hfile]
        rfl

/-! ### The preparation -/

/-- What `try` has made ready: the script, the source to run it over, and the endpoint. -/
structure Trial where
  snippet : Snippet
  code : String
  endpoint : Service.Endpoint

namespace Trial

/-- What is to be posted: the script and the source, to the address for trying the language of the
script. -/
def exchange (t : Trial) : Service.Exchange where
  address := t.endpoint.address t.snippet.language .tryScript
  payload := (⟨t.snippet.extension, t.code, t.snippet.text⟩ : Service.TrialQuery).payload

/-- The part of `try` after the preparation. -/
def run (t : Trial) (output : Option String) : Run Unit := do
  Run.tell (.status ("Running snippet via " ++ Service.addressText t.exchange.address))
  let outcome ← Run.post .tryScript t.exchange.address t.exchange.payload
  let result ← Run.ofFault outcome
  deliver output result

end Trial

/-- Everything local is sound: the files load and merge to a request that is assembled, the source
is a text, and the endpoint can be extended. -/
structure Sound (w : World) (p : Supply) (f : Fields) (s : Sources) (source endpoint : String)
    (t : Trial) : Prop where
  assembled : ∃ r, w.merged? p f s = some r ∧ r.assemble = .ok t.snippet
  source : ∃ text, w.content? p source = some text ∧ t.code = Text.withoutLineEnds text
  endpoint : Service.Endpoint.ofText endpoint = .ok t.endpoint

theorem tryRequest_eq (f : Fields) (source endpoint : String) (r : Request) :
    tryRequest f source endpoint r = (do
      let snippet ← Run.ofFault r.assemble
      warn snippet.warnings
      let code ← Run.source source
      let e ← Run.ofFault (Service.Endpoint.ofText endpoint)
      Trial.run ⟨snippet, code, e⟩ f.output) := rfl

/-- `try` comes to its exchange with everything that is sound, or ends before it with some notes at
most. -/
theorem play_trial_cases (w : World) (p : Supply) (f : Fields) (s : Sources)
    (source endpoint : String)
    (hone : ∀ path, s.body = some path → Source.isStandardInput path = true →
      Source.isStandardInput source = false) :
    (∃ t, Sound w p f s source endpoint t ∧ ∃ q notes, Run.play w p (trial f s source endpoint) =
      (Run.play w q (t.run f.output)).precededBy (List.map Event.noted notes)) ∨
    (∀ t, ¬Sound w p f s source endpoint t) ∧ ∃ report notes,
      Run.play w p (trial f s source endpoint) = ⟨.error report, List.map Event.noted notes⟩ := by
  -- the body file does not use up the source
  have hcontent : w.content? (afterBodyFile p s) source = w.content? p source := by
    unfold afterBodyFile
    cases hbody : s.body with
    | none => rfl
    | some path => exact w.content?_afterSource p path source (hone path hbody)
  rw [trial_eq]
  obtain ⟨r, hr, hplay⟩ | ⟨hnone, report, hplay⟩ :=
    play_requestOf_cases w p f s (tryRequest f source endpoint)
  · have honly : ∀ t, Sound w p f s source endpoint t → r.assemble = .ok t.snippet := by
      intro t ht
      obtain ⟨other, hother, hassembled⟩ := ht.assembled
      obtain rfl := Option.some.inj (hr.symm.trans hother)
      exact hassembled
    rw [hplay, tryRequest_eq, Run.play_ofFault_bind]
    cases hassembled : r.assemble with
    | error fault =>
      refine .inr ⟨fun t ht => ?_, .ofFault fault, [], rfl⟩
      cases hassembled.symm.trans (honly t ht)
    | ok snippet =>
      dsimp only
      rw [play_warn_bind]
      obtain ⟨text, htext, hsource⟩ | ⟨hunread, report, hsource⟩ :=
        Run.play_source_bind_cases w (afterBodyFile p s) source fun code => do
          let e ← Run.ofFault (Service.Endpoint.ofText endpoint)
          Trial.run ⟨snippet, code, e⟩ f.output
      · rw [hsource, Run.play_ofFault_bind]
        cases hendpoint : Service.Endpoint.ofText endpoint with
        | error fault =>
          refine .inr ⟨fun t ht => ?_, .ofFault fault, snippet.warnings.map Note.warning, ?_⟩
          · cases hendpoint.symm.trans ht.endpoint
          · exact congrArg (Story.mk _) (List.append_nil _)
        | ok e =>
          have hsound : Sound w p f s source endpoint ⟨snippet, Text.withoutLineEnds text, e⟩ :=
            ⟨⟨r, hr, hassembled⟩, ⟨text, hcontent ▸ htext, rfl⟩, hendpoint⟩
          exact .inl ⟨_, hsound, _, snippet.warnings.map Note.warning, rfl⟩
      · refine .inr ⟨fun t ht => ?_, report, snippet.warnings.map Note.warning, ?_⟩
        · obtain ⟨text, htext, -⟩ := ht.source
          cases hunread.symm.trans (hcontent.trans htext)
        · rw [hsource]
          exact congrArg (Story.mk _) (List.append_nil _)
  · refine .inr ⟨fun t ht => ?_, report, [], hplay⟩
    obtain ⟨r, hr, hassembled⟩ := ht.assembled
    exact hnone r hr _ hassembled

/-! ### The exchange -/

/-- What comes of a trial, once the service has been asked. -/
def afterReply (w : World) (q : Supply) (output : Option String) : Except Fault String → Story Unit
  | .ok text => Run.play w q (deliver output text)
  | .error fault => ⟨.error (.ofFault fault), []⟩

theorem play_run (w : World) (q : Supply) (t : Trial) (output : Option String) :
    let note : Event :=
      .noted (.status ("Running snippet via " ++ Service.addressText t.exchange.address))
    let reply := w.service t.exchange
    (Service.IsWebAddress t.exchange.address → Run.play w q (t.run output) =
      (afterReply w q output (reply.outcome .tryScript t.exchange.address)).precededBy
        [note, .sent t.exchange reply]) ∧
    (¬Service.IsWebAddress t.exchange.address → Run.play w q (t.run output) =
      ⟨.error (.ofFault (Service.unsent t.exchange.address)), [note]⟩) := by
  intro note reply
  have hrun : Run.play w q (t.run output) =
      (Run.play w q (Run.post .tryScript t.exchange.address t.exchange.payload >>= fun outcome =>
        Run.ofFault outcome >>= deliver output)).after note := rfl
  have hanswer : ∀ outcome, Run.play w q (Run.ofFault outcome >>= deliver output) =
      afterReply w q output outcome := by
    intro outcome
    cases outcome with
    | error fault => rfl
    | ok text => rfl
  have hweb := Service.canPost_iff t.exchange.address
  rw [hrun, Run.play_post_bind]
  constructor
  · intro h
    rw [if_pos (hweb.mpr h), hanswer]
    rfl
  · intro h
    rw [if_neg (mt hweb.mp h)]
    rfl

/-- What a reply makes of a run: the output that it gives goes where it should, and without one the
run fails and leaves nothing. -/
def Settled (w : World) (story : Story Unit) (reply : Service.Reply) (target : Option String) :
    Prop :=
  (∃ text, reply.Gives .tryScript text ∧ Finished w story "" target text) ∨
    (∀ text, ¬reply.Gives .tryScript text) ∧ (∃ report, story.result = .error report) ∧
      story.remains = .nothing

theorem Settled.precededBy {w : World} {story : Story Unit} {reply : Service.Reply}
    {target : Option String} (h : Settled w story reply target) {earlier : List Event}
    (hnothing : Story.remains (⟨.ok (), earlier⟩ : Story Unit) = .nothing) :
    Settled w (story.precededBy earlier) reply target := by
  obtain ⟨text, hgives, hfinished⟩ | ⟨hnone, hfails, hempty⟩ := h
  · exact .inl ⟨text, hgives, hfinished.precededBy hnothing⟩
  · exact .inr ⟨hnone, hfails, (Story.remains_precededBy story hnothing).trans hempty⟩

theorem Settled.ends {w : World} {story : Story Unit} {reply : Service.Reply}
    {target : Option String} (h : Settled w story reply target) :
    (story.result = .ok () ↔ (∃ text, reply.Gives .tryScript text) ∧ w.CanTake target) ∧
    (∀ text, reply.Gives .tryScript text → w.CanTake target →
      story.remains = .ofText "" target text) ∧
    ((∃ report, story.result = .error report) → story.remains = .nothing) := by
  obtain ⟨text, hgives, hfinished⟩ | ⟨hnone, ⟨report, herror⟩, hnothing⟩ := h
  · obtain ⟨htake, hok, hremains⟩ | ⟨htake, ⟨report, herror⟩, hnothing⟩ := hfinished
    · refine ⟨⟨fun _ => ⟨⟨text, hgives⟩, htake⟩, fun _ => hok⟩, fun other hother _ => ?_, ?_⟩
      · rw [hother.unique hgives]
        exact hremains
      · rintro ⟨report, herror⟩
        cases hok.symm.trans herror
    · refine ⟨⟨fun hok => ?_, fun h => absurd h.2 htake⟩, fun _ _ h => absurd h htake,
        fun _ => hnothing⟩
      cases hok.symm.trans herror
  · refine ⟨⟨fun hok => ?_, fun ⟨⟨text, hgives⟩, _⟩ => absurd hgives (hnone text)⟩,
      fun text hgives _ => absurd hgives (hnone text), fun _ => hnothing⟩
    cases hok.symm.trans herror

theorem settled_run (w : World) (q : Supply) (t : Trial) (output : Option String)
    (hweb : Service.IsWebAddress t.exchange.address) :
    let reply := w.service t.exchange
    let played := Run.play w q (t.run output)
    played.exchanges = [(t.exchange, reply)] ∧ Settled w played reply output := by
  intro reply played
  have hplayed : played = _ := (play_run w q t output).1 hweb
  have hgives := fun text => Service.Reply.outcome_eq_ok_iff .tryScript t.exchange.address reply text
  rw [hplayed]
  cases houtcome : reply.outcome .tryScript t.exchange.address with
  | error fault =>
    refine ⟨rfl, .inr ⟨fun text htext => ?_, ⟨_, rfl⟩, rfl⟩⟩
    cases houtcome.symm.trans ((hgives text).mpr htext)
  | ok text =>
    have hsilent : (Run.play w q (deliver output text)).exchanges = [] :=
      Run.exchanges_of_quiet w q _ (quiet_deliver output text)
    have hfinished := finished_deliver w q output text
    refine ⟨?_, .inl ⟨text, (hgives text).mp houtcome, hfinished.precededBy rfl⟩⟩
    rw [Story.exchanges_precededBy, afterReply, hsilent]
    rfl

/-! ### The command -/

theorem Sound.unique {w : World} {p : Supply} {f : Fields} {s : Sources} {source endpoint : String}
    {t t' : Trial} (h : Sound w p f s source endpoint t) (h' : Sound w p f s source endpoint t') :
    t = t' := by
  obtain ⟨⟨r, hr, hassembled⟩, ⟨text, htext, hcode⟩, hendpoint⟩ := h
  obtain ⟨⟨r', hr', hassembled'⟩, ⟨text', htext', hcode'⟩, hendpoint'⟩ := h'
  obtain rfl := Option.some.inj (hr.symm.trans hr')
  obtain rfl := Option.some.inj (htext.symm.trans htext')
  have hsnippet : t.snippet = t'.snippet := Except.ok.inj (hassembled.symm.trans hassembled')
  have hsource : t.code = t'.code := hcode.trans hcode'.symm
  have hsame : t.endpoint = t'.endpoint := Except.ok.inj (hendpoint.symm.trans hendpoint')
  cases t
  cases t'
  simp_all only

/-- All that `try` can come to: an exchange that settles the rest, or a failure before it. -/
theorem trial_cases (w : World) (p : Supply) (f : Fields) (s : Sources) (source endpoint : String)
    (hone : ∀ path, s.body = some path → Source.isStandardInput path = true →
      Source.isStandardInput source = false) :
    let played := Run.play w p (trial f s source endpoint)
    (∃ t, Sound w p f s source endpoint t ∧ Service.IsWebAddress t.exchange.address ∧
      played.exchanges = [(t.exchange, w.service t.exchange)] ∧
      Settled w played (w.service t.exchange) f.output) ∨
    (∀ t, Sound w p f s source endpoint t → ¬Service.IsWebAddress t.exchange.address ∧
        played.result = .error (.ofFault (Service.unsent t.exchange.address))) ∧
      played.exchanges = [] ∧ (∃ report, played.result = .error report) ∧
      played.remains = .nothing := by
  intro played
  obtain ⟨t, ht, q, notes, hplay⟩ | ⟨hunsound, report, notes, hplay⟩ :=
    play_trial_cases w p f s source endpoint hone
  · have hplayed : played = (Run.play w q (t.run f.output)).precededBy (notes.map .noted) := hplay
    obtain ⟨hnothing, -⟩ := Story.of_notes (.ok () : Except Report Unit) notes
    have hexchanges : played.exchanges = (Run.play w q (t.run f.output)).exchanges := by
      rw [hplayed, Story.exchanges_precededBy, (Story.of_notes _ notes).2, List.nil_append]
    by_cases hweb : Service.IsWebAddress t.exchange.address
    · obtain ⟨hsent, hsettled⟩ := settled_run w q t f.output hweb
      refine .inl ⟨t, ht, hweb, hexchanges.trans hsent, ?_⟩
      rw [hplayed]
      exact hsettled.precededBy hnothing
    · have hunsent := (play_run w q t f.output).2 hweb
      rw [hunsent] at hplayed hexchanges
      refine .inr ⟨fun t' ht' => ?_, hexchanges, ?_⟩
      · rw [← ht.unique ht', hplayed]
        exact ⟨hweb, rfl⟩
      · rw [hplayed]
        exact ⟨⟨_, rfl⟩, Story.remains_precededBy _ hnothing⟩
  · have hplayed : played = ⟨.error report, notes.map .noted⟩ := hplay
    obtain ⟨hnothing, hsilent⟩ := Story.of_notes (.error report : Except Report Unit) notes
    rw [hplayed]
    exact .inr ⟨fun t ht => absurd ht (hunsound t), hsilent, ⟨report, rfl⟩, hnothing⟩

/-- What `try` asks the service is what it rendered, and it asks once. There is an exchange exactly
if everything local is sound and the endpoint makes a valid address of the web; the run succeeds
exactly if the service then gives an output that can go where it should, and that is all that is
left. In every other case it fails and leaves nothing; if no more than the address is at fault, it
says so. -/
theorem trial_posts_what_it_rendered (w : World) (p : Supply) (f : Fields) (s : Sources)
    (source endpoint : String)
    (hone : ∀ path, s.body = some path → Source.isStandardInput path = true →
      Source.isStandardInput source = false) :
    let played := Run.play w p (trial f s source endpoint)
    (played.exchanges ≠ [] ↔
      ∃ t, Sound w p f s source endpoint t ∧ Service.IsWebAddress t.exchange.address) ∧
    (∀ t, Sound w p f s source endpoint t → Service.IsWebAddress t.exchange.address →
      played.exchanges = [(t.exchange, w.service t.exchange)] ∧
      (played.result = .ok () ↔
        (∃ output, (w.service t.exchange).Gives .tryScript output) ∧ w.CanTake f.output) ∧
      ∀ output, (w.service t.exchange).Gives .tryScript output → w.CanTake f.output →
        played.remains = .ofText "" f.output output) ∧
    (∀ t, Sound w p f s source endpoint t → ¬Service.IsWebAddress t.exchange.address →
      played.result = .error (.ofFault (Service.unsent t.exchange.address))) ∧
    (played.result = .ok () → played.exchanges ≠ []) ∧
    ((∃ report, played.result = .error report) → played.remains = .nothing) := by
  intro played
  obtain ⟨t, ht, hweb, hsent, hsettled⟩ | ⟨hunsound, hsilent, ⟨report, herror⟩, hnothing⟩ :=
    trial_cases w p f s source endpoint hone
  · have hsome : played.exchanges ≠ [] := hsent.symm ▸ List.cons_ne_nil _ _
    obtain ⟨hresult, hremains, hfails⟩ := hsettled.ends
    refine ⟨⟨fun _ => ⟨t, ht, hweb⟩, fun _ => hsome⟩, fun t' ht' _ => ?_, fun t' ht' hnot => ?_,
      fun _ => hsome, hfails⟩
    · obtain rfl := ht.unique ht'
      exact ⟨hsent, hresult, hremains⟩
    · obtain rfl := ht.unique ht'
      exact absurd hweb hnot
  · refine ⟨⟨fun hsome => absurd hsilent hsome, fun ⟨t, ht, hweb⟩ => absurd hweb (hunsound t ht).1⟩,
      fun t ht hweb => absurd hweb (hunsound t ht).1, fun t ht _ => (hunsound t ht).2,
      fun hok => ?_, fun _ => hnothing⟩
    cases hok.symm.trans herror

/-- A body from the standard input, and a service that answers. -/
theorem trial_posts_what_it_rendered_ruby :
    let w : World := ⟨fun _ => .ok [97, 10], fun _ => none,
      fun _ => .answered 200 (Text.utf8 "\x7b\"output\":\"y\"\x7d")⟩
    let f : Fields := ⟨some "rb", none, none, none, none, none⟩
    let s : Sources := ⟨none, some "-"⟩
    let played := Run.play w ⟨[98], none⟩ (trial f s "a" "http://h")
    (∃ t, Sound w ⟨[98], none⟩ f s "a" "http://h" t ∧ t.code = "a" ∧
      Request.assemble ⟨"rb", none, none, "", "", "b"⟩ = .ok t.snippet ∧
      played.exchanges = [(t.exchange, w.service t.exchange)]) ∧
    played.result = .ok () ∧ played.remains = ⟨"y\n", []⟩ := by
  intro w f s played
  obtain ⟨-, hposts, -⟩ := trial_posts_what_it_rendered w ⟨[98], none⟩ f s "a" "http://h"
    (fun _ _ _ => by decide)
  obtain ⟨e, he, hweb⟩ := Service.Endpoint.exists_web "http://h" .ruby .tryScript (by decide +kernel)
  obtain ⟨snippet, hassembled⟩ :=
    Request.exists_script ⟨"rb", none, none, "", "", "b"⟩ (by decide +kernel)
  have hmerged : w.merged? ⟨[98], none⟩ f s = some ⟨"rb", none, none, "", "", "b"⟩ := by
    decide +kernel
  have hcode : "a" = Text.withoutLineEnds "a\n" := by decide +kernel
  have hsound : Sound w ⟨[98], none⟩ f s "a" "http://h" ⟨snippet, "a", e⟩ :=
    ⟨⟨_, hmerged, hassembled⟩, ⟨"a\n", by decide +kernel, hcode⟩, he⟩
  have hanswer : Service.Answer.ofBytes? .tryScript (Text.utf8 "\x7b\"output\":\"y\"\x7d") =
      some ⟨some "y", none⟩ := by decide +kernel
  have hgives : (w.service (Trial.exchange ⟨snippet, "a", e⟩)).Gives .tryScript "y" :=
    ⟨200, _, _, rfl, by decide, hanswer, .inl rfl, rfl⟩
  have hruby : Language.resolve "rb" = .ok .ruby := by rfl
  have hlanguage := ((Request.assemble_eq_ok_iff _ snippet).mp hassembled).1
  rw [← Except.ok.inj (hlanguage.symm.trans hruby)] at hweb
  obtain ⟨hsent, hresult, hremains⟩ := hposts _ hsound hweb
  exact ⟨⟨_, hsound, rfl, hassembled, hsent⟩, hresult.mpr ⟨⟨"y", hgives⟩, w.canTake_none⟩,
    hremains "y" hgives w.canTake_none⟩

end Cli
end ScriptPress
