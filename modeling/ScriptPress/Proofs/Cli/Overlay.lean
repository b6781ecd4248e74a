import ScriptPress.Cli.Scripts
import ScriptPress.Proofs.Request.Entries
import ScriptPress.Proofs.Run.World

/-!
# Options on top of a request file

`render` and `try` work on one request, put together field by field: the option of a field if it is
given, else what the request file gives, else the default; a body file is the option of the body.
Main statement: `flags_overlay_file`, for every file that is a mapping of scalars. The file has to
give a language, whatever the options say, and an option counts as given when it is blank.
-/
namespace ScriptPress.Cli

open Request (Key Written Gives givesIn valueIn)

def optionFor (f : Fields) (body : Option String) : Key → Option String
  | .language => f.language
  | .extension => f.extension
  | .filePattern => f.filePattern
  | .runtimeVersion => f.runtimeVersion
  | .dependencyVersion => f.dependencyVersion
  | .body => body

/-- The request of the options on top of what a file gives. -/
def overlaid (f : Fields) (body : Option String) (fields : List (Key × Written)) : Request :=
  Request.ofValues fun k => optionFor f body k <|> valueIn fields k

def tryRequest (f : Fields) (source endpoint : String) (r : Request) : Run Unit := do
  let snippet ← Run.ofFault r.assemble
  warn snippet.warnings
  let code ← Run.source source
  let e ← Run.ofFault (Service.Endpoint.ofText endpoint)
  let address := e.address snippet.language .tryScript
  Run.tell (.status ("Running snippet via " ++ Service.addressText address))
  let outcome ← Run.post .tryScript address (snippet.trial code).payload
  let result ← Run.ofFault outcome
  deliver f.output result

theorem trial_eq (f : Fields) (s : Sources) (source endpoint : String) :
    trial f s source endpoint = (requestOf f s >>= tryRequest f source endpoint) := rfl

theorem render_eq_bind (f : Fields) (s : Sources) :
    render f s = (requestOf f s >>= fun r => emit r f.output) := rfl

def noLanguage : Report :=
  .plain "No language given. Pass --language or a request file with `language`."

/-- The report of a request file that is a mapping but no request. -/
def invalidRequest (path : String) (reason : Request.Reason) (start : Yaml.Mark) : Report :=
  (Request.DocumentFault.misfit reason none start).report.because ("Invalid request in " ++ path)

/-! ### The request -/

theorem over_ofValues (f : Fields) (value : Key → Option String) (body : Option String) :
    { f.over (Request.ofValues value) with body := body.getD (Request.ofValues value).body } =
      Request.ofValues fun k => optionFor f body k <|> value k := by
  have hgetD : ∀ a b : Option String, a.getD (b.getD "") = (a <|> b).getD "" := by
    intro a b
    cases a <;> rfl
  simp only [Fields.over, Request.ofValues, optionFor, hgetD]

theorem ofFile_of_gives (path : String) (content : FileContent) (text : String) (start : Yaml.Mark)
    (fields : List (Key × Written)) (hfile : content.text = .ok text) (h : Gives text start fields) :
    Request.ofFile path content =
      match Request.readFields fields with
      | .error reason => .error (invalidRequest path reason start)
      | .ok _ =>
        if givesIn fields .language then .ok (Request.ofValues (valueIn fields))
        else .error (invalidRequest path (.missing .language) start) := by
  rw [Request.ofFile, FileContent.textAt, hfile]
  dsimp only
  rw [Request.ofText_of_gives text start fields h]
  cases Request.readFields fields with
  | error reason => rfl
  | ok given =>
    dsimp only
    cases givesIn fields .language <;> rfl

theorem text_utf8 (text : String) : FileContent.text (.ok (Text.utf8 text)) = .ok text := by
  have hread := Text.ofUtf8?_utf8 text
  simp only [FileContent.text, hread, bind, Except.bind, pure, Except.pure]

def afterBody (p : Supply) (body : Option (String × String)) : Supply :=
  body.elim p fun b => p.afterSource b.1

/-- What is done with the request of a file: the options go on top, and then the body file. -/
def completed (f : Fields) (body : Option String) (base : Request) : Run Request :=
  if !namesLanguage (f.over base) then Run.fail noLanguage
  else
    match body with
    | some path => do
      let text ← Run.source path
      return { f.over base with body := text }
    | none => return f.over base

theorem requestOf_eq (f : Fields) (path : String) (body : Option String) :
    requestOf f ⟨some path, body⟩ =
      .readFile path fun content =>
        Run.ofReport (Request.ofFile path content) >>= completed f body := rfl

theorem play_requestOf_file {α : Type} (w : World) (p : Supply) (f : Fields) (path : String)
    (body : Option String) (next : Request → Run α) :
    Run.play w p (requestOf f ⟨some path, body⟩ >>= next) =
      Run.play w p (Run.ofReport (Request.ofFile path (w.file path)) >>= fun base =>
        completed f body base >>= next) := by
  rw [requestOf_eq, ← Run.bind_assoc]
  -- what completes the request is kept closed, so that only the reading is computed
  generalize completed f body = complete
  rfl

theorem play_completed_bind {α : Type} (w : World) (p : Supply) (f : Fields)
    (body : Option (String × String)) (value : Key → Option String) (next : Request → Run α)
    (hbody : ∀ b ∈ body, w.content? p b.1 = some b.2) :
    Run.play w p (completed f (body.map Prod.fst) (Request.ofValues value) >>= next) =
      let r := Request.ofValues fun k =>
        optionFor f (body.map fun b => Text.withoutLineEnds b.2) k <|> value k
      if Text.trimmed r.language = "" then ⟨.error noLanguage, []⟩
      else Run.play w (afterBody p body) (next r) := by
  have hover := over_ofValues f value (body.map fun b => Text.withoutLineEnds b.2)
  have hlanguage := congrArg Request.language hover
  dsimp only at hlanguage ⊢
  rw [← hlanguage, ← hover]
  unfold completed namesLanguage
  by_cases hblank : Text.trimmed (f.over (Request.ofValues value)).language = ""
  · simp only [hblank]
    rfl
  · simp only [hblank, ne_eq, not_false_eq_true, decide_true, Bool.not_true, Bool.false_eq_true,
      if_false]
    cases body with
    | none => rfl
    | some b =>
      have hread := Run.play_source_bind w p b.1 b.2
        (fun text => next { f.over (Request.ofValues value) with body := text }) (hbody b rfl)
      rw [Option.map_some, Run.bind_assoc]
      exact hread

/-- A run that starts with the request of a file goes on with the overlaid one, unless the file is
refused or no language is named. -/
theorem play_requestOf_bind {α : Type} (w : World) (p : Supply) (f : Fields) (path text : String)
    (body : Option (String × String)) (start : Yaml.Mark) (fields : List (Key × Written))
    (next : Request → Run α) (hfile : (w.file path).text = .ok text)
    (hbody : ∀ b ∈ body, w.content? p b.1 = some b.2) (h : Gives text start fields) :
    Run.play w p (requestOf f ⟨some path, body.map Prod.fst⟩ >>= next) =
      match Request.readFields fields with
      | .error reason => ⟨.error (invalidRequest path reason start), []⟩
      | .ok _ =>
        let r := overlaid f (body.map fun b => Text.withoutLineEnds b.2) fields
        if givesIn fields .language then
          if Text.trimmed r.language = "" then ⟨.error noLanguage, []⟩
          else Run.play w (afterBody p body) (next r)
        else ⟨.error (invalidRequest path (.missing .language) start), []⟩ := by
  rw [play_requestOf_file, ofFile_of_gives path (w.file path) text start fields hfile h]
  cases Request.readFields fields with
  | error reason =>
    dsimp only
    rw [Run.ofReport, Run.fail_bind, Run.play]
  | ok given =>
    dsimp only
    by_cases hgiven : givesIn fields .language = true
    · rw [if_pos hgiven, if_pos hgiven, Run.ofReport, Run.done_bind]
      exact play_completed_bind w p f body (valueIn fields) next hbody
    · rw [if_neg hgiven, if_neg hgiven, Run.ofReport, Run.fail_bind, Run.play]

/-! ### The commands -/

/-- The options go on top of a request file field by field. The file has to give a language and may
not demand nothing of a text; the commands stop for want of a language exactly if the one in force
is blank, and else go on with the overlaid request. -/
theorem flags_overlay_file (w : World) (p : Supply) (f : Fields) (path text : String)
    (body : Option (String × String)) (start : Yaml.Mark) (fields : List (Key × Written))
    (source endpoint : String) (hfile : (w.file path).text = .ok text)
    (hbody : ∀ b ∈ body, w.content? p b.1 = some b.2) (h : Gives text start fields) :
    let r := overlaid f (body.map fun b => Text.withoutLineEnds b.2) fields
    let rendered := Run.play w p (render f ⟨some path, body.map Prod.fst⟩)
    let tried := Run.play w p (trial f ⟨some path, body.map Prod.fst⟩ source endpoint)
    ((∃ g ∈ fields, ∃ reason, g.2.saidAs g.1 = .error reason) →
      ∃ reason, rendered = ⟨.error (invalidRequest path reason start), []⟩ ∧
        tried = ⟨.error (invalidRequest path reason start), []⟩) ∧
    ((∀ g ∈ fields, ∃ said, g.2.saidAs g.1 = .ok said) →
      (givesIn fields .language = false →
        rendered = ⟨.error (invalidRequest path (.missing .language) start), []⟩ ∧
          tried = ⟨.error (invalidRequest path (.missing .language) start), []⟩) ∧
      (givesIn fields .language = true →
        (Text.trimmed r.language = "" →
          rendered = ⟨.error noLanguage, []⟩ ∧ tried = ⟨.error noLanguage, []⟩) ∧
        (Text.trimmed r.language ≠ "" →
          rendered = Run.play w (afterBody p body) (emit r f.output) ∧
            tried = Run.play w (afterBody p body) (tryRequest f source endpoint r)))) := by
  intro r rendered tried
  have hrendered := play_requestOf_bind w p f path text body start fields
    (fun r => emit r f.output) hfile hbody h
  have htried := play_requestOf_bind w p f path text body start fields
    (tryRequest f source endpoint) hfile hbody h
  rw [← render_eq_bind] at hrendered
  rw [← trial_eq] at htried
  constructor
  · intro hdemand
    obtain ⟨reason, hread⟩ := (Request.readFields_eq_error_iff fields).mpr hdemand
    rw [hread] at hrendered htried
    exact ⟨reason, hrendered, htried⟩
  · intro hsaid
    obtain ⟨given, hread⟩ := Request.readFields_of_saidAs hsaid
    rw [hread] at hrendered htried
    dsimp only at hrendered htried
    refine ⟨fun hmissing => ?_, fun hgiven => ⟨fun hblank => ?_, fun hnamed => ?_⟩⟩
    · rw [if_neg (by simp [hmissing])] at hrendered htried
      exact ⟨hrendered, htried⟩
    · rw [if_pos hgiven, if_pos hblank] at hrendered htried
      exact ⟨hrendered, htried⟩
    · rw [if_pos hgiven, if_neg hnamed] at hrendered htried
      exact ⟨hrendered, htried⟩

theorem flags_overlay_file_ruby :
    let w : World := ⟨fun path => if path = "r" then .ok (Text.utf8 "filePattern: a\nlanguage: rb")
      else .ok [120, 10], fun _ => none, fun _ => .refused⟩
    let f : Fields := ⟨some "ruby", none, none, some "3", none, none⟩
    Run.play w ⟨[], none⟩ (render f ⟨some "r", some "b"⟩) =
      Run.play w ⟨[], none⟩ (emit ⟨"ruby", none, some "a", "3", "", "x"⟩ none) := by
  intro w f
  have hgives := Request.gives_of_given? "filePattern: a\nlanguage: rb" Yaml.Mark.zero
      [(.filePattern, ⟨none, ['a'], .plain⟩), (.language, ⟨none, ['r', 'b'], .plain⟩)]
      (by decide +kernel)
  have hfile : (w.file "r").text = .ok "filePattern: a\nlanguage: rb" := text_utf8 _
  have hbody : ∀ b ∈ some ("b", "x\n"), w.content? ⟨[], none⟩ b.1 = some b.2 := by
    intro b hb
    obtain rfl := Option.some.inj hb
    decide +kernel
  have hoverlay := flags_overlay_file w ⟨[], none⟩ f "r" _ (some ("b", "x\n")) Yaml.Mark.zero _
    "" "" hfile hbody hgives
  have hsaid : ∀ g ∈ ([(.filePattern, ⟨none, ['a'], .plain⟩),
      (.language, ⟨none, ['r', 'b'], .plain⟩)] : List (Key × Written)),
      ∃ said, g.2.saidAs g.1 = .ok said := by
    intro g hg
    simp only [List.mem_cons, List.not_mem_nil, or_false] at hg
    obtain rfl | rfl := hg
    · exact ⟨some "a", rfl⟩
    · exact ⟨some "rb", rfl⟩
  exact (((hoverlay.2 hsaid).2 rfl).2 (by decide +kernel)).1

/-- The options cannot make up for a file without a language, a blank option takes the place of the
language of a file, and a text that is tagged as nothing is refused. -/
theorem overlay_without_language :
    let w := fun text : String =>
      (⟨fun _ => .ok (Text.utf8 text), fun _ => none, fun _ => .refused⟩ : World)
    let f := fun id : String => (⟨some id, none, none, none, none, none⟩ : Fields)
    (Gives "body: x" Yaml.Mark.zero [(.body, ⟨none, ['x'], .plain⟩)] ∧
      overlaid (f "ruby") none [(.body, ⟨none, ['x'], .plain⟩)] =
        ⟨"ruby", none, none, "", "", "x"⟩ ∧
      Run.play (w "body: x") ⟨[], none⟩ (render (f "ruby") ⟨some "r", none⟩) =
        ⟨.error ⟨"Invalid request in r",
          ["Failed to parse snippet request", "missing field `language`"]⟩, []⟩) ∧
    (Gives "language: ruby" Yaml.Mark.zero [(.language, ⟨none, "ruby".toList, .plain⟩)] ∧
      valueIn [(.language, ⟨none, "ruby".toList, .plain⟩)] .language = some "ruby" ∧
      Run.play (w "language: ruby") ⟨[], none⟩ (render (f "") ⟨some "r", none⟩) =
        ⟨.error noLanguage, []⟩) ∧
    Gives "extension: !!null rb" Yaml.Mark.zero
      [(.extension, ⟨some "tag:yaml.org,2002:null".toUTF8.data.toList, ['r', 'b'], .plain⟩)] ∧
    Run.play (w "extension: !!null rb") ⟨[], none⟩ (render (f "ruby") ⟨some "r", none⟩) =
      ⟨.error ⟨"Invalid request in r",
        ["Failed to parse snippet request", "invalid value: string \"rb\", expected null"]⟩, []⟩ := by
  intro w f
  have hbody : ∀ (w : World), ∀ b ∈ (none : Option (String × String)),
      w.content? ⟨[], none⟩ b.1 = some b.2 := by
    intro w b hb
    cases hb
  have hmissing := Request.gives_of_given? "body: x" Yaml.Mark.zero
    [(.body, ⟨none, ['x'], .plain⟩)] (by decide +kernel)
  have hruby := Request.gives_of_given? "language: ruby" Yaml.Mark.zero
    [(.language, ⟨none, "ruby".toList, .plain⟩)] (by decide +kernel)
  have htagged := Request.gives_of_given? "extension: !!null rb" Yaml.Mark.zero
    [(.extension, ⟨some "tag:yaml.org,2002:null".toUTF8.data.toList, ['r', 'b'], .plain⟩)]
    (by decide +kernel)
  refine ⟨⟨hmissing, rfl, ?_⟩, ⟨hruby, rfl, ?_⟩, htagged, ?_⟩
  · exact play_requestOf_bind (w "body: x") ⟨[], none⟩ (f "ruby") "r" _ none _ _ _
      (text_utf8 _) (hbody _) hmissing
  · exact play_requestOf_bind (w "language: ruby") ⟨[], none⟩ (f "") "r" _ none _ _ _
      (text_utf8 _) (hbody _) hruby
  · have hread : Request.readFields
        [(.extension, ⟨some "tag:yaml.org,2002:null".toUTF8.data.toList, ['r', 'b'], .plain⟩)] =
          .error (.wrongText ['r', 'b'] .null) := by
      have htag : Yaml.Demand.ofTag? "tag:yaml.org,2002:null".toUTF8.data.toList = some .null := by
        decide +kernel
      simp only [Request.readFields, Written.saidAs, Request.isNothing, htag]
      rfl
    have hreport : invalidRequest "r" (.wrongText ['r', 'b'] .null) Yaml.Mark.zero =
        ⟨"Invalid request in r",
          ["Failed to parse snippet request", "invalid value: string \"rb\", expected null"]⟩ := by
      decide +kernel
    have hplayed := play_requestOf_bind (w "extension: !!null rb") ⟨[], none⟩ (f "ruby") "r" _ none
      _ _ (fun r => emit r none) (text_utf8 _) (hbody _) htagged
    rw [hread] at hplayed
    exact hplayed.trans (congrArg (fun r => (⟨.error r, []⟩ : Story Unit)) hreport)

end ScriptPress.Cli
