import ScriptPress.Proofs.Cli.Trial
import ScriptPress.Proofs.Script.Inside

/-!
# The body file of `render`

`render` takes a body file without the line breaks at its end, and goes on as it would with this
text for a body (`play_render_bodyFile`). Main statement: `body_file_without_line_ends`; two files
that differ in these line breaks alone come to the same run, a file of nothing else to that of an
empty body, and any other file leaves something on the last line inside the script.
-/
namespace ScriptPress.Cli

/-! ### Reading the body file -/

def renderBody (f : Fields) (request : Option String) (body : String) : Run Unit := do
  let r ← requestOf f ⟨request, none⟩
  emit { r with body := body } f.output

theorem play_completed_bodyFile (w : World) (p q : Supply) (f : Fields) (path text : String)
    (base : Request) (h : w.content? p path = some text) :
    Run.play w p (completed f (some path) base >>= fun r => emit r f.output) =
      Run.play w q (completed f none base >>= fun r =>
        emit { r with body := Text.withoutLineEnds text } f.output) := by
  unfold completed
  cases namesLanguage (f.over base) with
  | false => rfl
  | true =>
    simp only [Bool.not_true, Bool.false_eq_true, if_false]
    rw [Run.bind_assoc, Run.play_source_bind w p path text _ h]
    -- emitting does not look at what is left of the standard input
    simp only [Run.pure_bind, play_emit]

/-- All that `render` takes from a body file is its text without the line breaks at the end. -/
theorem play_render_bodyFile (w : World) (p q : Supply) (f : Fields) (request : Option String)
    (path text : String) (h : w.content? p path = some text) :
    Run.play w p (render f ⟨request, some path⟩) =
      Run.play w q (renderBody f request (Text.withoutLineEnds text)) := by
  rw [render_eq_bind, renderBody]
  cases request with
  | none =>
    rw [requestOf_blank_eq, requestOf_blank_eq]
    exact play_completed_bodyFile w p q f path text Request.blank h
  | some file =>
    rw [play_requestOf_file, play_requestOf_file]
    cases Request.ofFile file (w.file file) with
    | error report => rfl
    | ok base =>
      rw [Run.ofReport, Run.done_bind, Run.done_bind]
      exact play_completed_bodyFile w p q f path text base h

/-! ### The script that comes of it -/

theorem innerLines_of_assemble {r : Request} {snippet : Snippet} (h : r.assemble = .ok snippet) :
    Script.innerLines snippet.language.family snippet.filePattern snippet.text =
      Script.bodyLines r.body := by
  obtain ⟨-, -, -, -, -, -, htext⟩ := (Request.assemble_eq_ok_iff r snippet).mp h
  rw [htext]
  exact Script.innerLines_combine snippet.language.family
    ⟨snippet.filePattern, snippet.runtime, snippet.dependency, r.body⟩

theorem render_bodyFile_of_ok {w : World} {p : Supply} {f : Fields} {request : Option String}
    {path text : String} (htext : w.content? p path = some text)
    (h : (Run.play w p (render f ⟨request, some path⟩)).result = .ok ()) :
    ∃ r snippet, w.merged? p f ⟨request, some path⟩ = some r ∧
      r.body = Text.withoutLineEnds text ∧ r.assemble = .ok snippet ∧
      (Run.play w p (render f ⟨request, some path⟩)).remains =
        .ofText "" f.output snippet.text := by
  rw [render_eq_bind] at h ⊢
  obtain ⟨r, hmerged, hplay⟩ | ⟨-, report, hplay⟩ :=
    play_requestOf_cases w p f ⟨request, some path⟩ fun r => emit r f.output
  · rw [hplay] at h ⊢
    obtain ⟨snippet, hassembled, hremains⟩ := remains_of_emit_eq_ok h
    refine ⟨r, snippet, hmerged, ?_, hassembled, hremains⟩
    obtain ⟨base, -, hbase⟩ := Option.bind_eq_some_iff.mp hmerged
    dsimp only at hbase
    rw [htext, Option.map_some] at hbase
    rw [← Option.some.inj hbase]
  · rw [hplay] at h
    cases h

/-- `render` succeeds exactly if its files load and merge to a request that is assembled, and the
script can go where it should. -/
theorem play_render_eq_ok_iff (w : World) (p : Supply) (f : Fields) (s : Sources) :
    (Run.play w p (render f s)).result = .ok () ↔
      (∃ r snippet, w.merged? p f s = some r ∧ r.assemble = .ok snippet) ∧ w.CanTake f.output := by
  rw [render_eq_bind]
  obtain ⟨r, hmerged, hplay⟩ | ⟨hnone, report, hplay⟩ :=
    play_requestOf_cases w p f s fun r => emit r f.output
  · rw [hplay, play_emit_eq_ok_iff]
    apply and_congr_left
    intro _
    constructor
    · rintro ⟨snippet, hassembled⟩
      exact ⟨r, snippet, hmerged, hassembled⟩
    · rintro ⟨other, snippet, hother, hassembled⟩
      rw [Option.some.inj (hmerged.symm.trans hother)]
      exact ⟨snippet, hassembled⟩
  · rw [hplay]
    refine ⟨fun h => (nomatch h), ?_⟩
    rintro ⟨⟨r, snippet, hmerged, hassembled⟩, -⟩
    exact absurd hassembled (hnone r hmerged snippet)

/-- The text of a body file counts without the line breaks at its end: in one way only it is a text
that does not end in a line break, with line breaks behind it, and cutting these off once is enough.
So `render` goes the same way, reports and warnings included, with any other file that differs from
it in these line breaks alone. A file of line breaks only is an empty body, which has no line inside
the script. With any other file the lines inside the script are those of the text that is left, four
spaces in, and the last one has something on it and does not end in CR. The run succeeds exactly if
the request with this body is assembled and its script can go where it should. -/
theorem body_file_without_line_ends (text : String) :
    let left := Text.withoutLineEnds text
    (∀ s, left = s ↔
      ∃ t, text.toList = s.toList ++ t ∧ Text.AllLineEnds t ∧ Text.EndsInText s.toList) ∧
    Text.withoutLineEnds left = left ∧
    ∀ (w : World) (p : Supply) (f : Fields) (request : Option String) (path : String),
      w.content? p path = some text →
      let story := Run.play w p (render f ⟨request, some path⟩)
      (∀ q other path', w.content? q path' = some other →
        Text.AlikeButLineEnds text.toList other.toList →
        Run.play w q (render f ⟨request, some path'⟩) = story) ∧
      (Text.AllLineEnds text.toList → story = Run.play w p (renderBody f request "")) ∧
      (story.result = .ok () ↔ (∃ r snippet, w.merged? p f ⟨request, some path⟩ = some r ∧
        r.assemble = .ok snippet) ∧ w.CanTake f.output) ∧
      (story.result = .ok () →
        ∃ r snippet, w.merged? p f ⟨request, some path⟩ = some r ∧ r.assemble = .ok snippet ∧
          story.remains = .ofText "" f.output snippet.text ∧
          let inner := Script.innerLines snippet.language.family snippet.filePattern snippet.text
          (Text.AllLineEnds text.toList → inner = []) ∧
          (¬Text.AllLineEnds text.toList →
            inner = (Script.linesOf left).map ([' ', ' ', ' ', ' '] ++ ·) ∧
            ∃ last, inner.getLast? = some ([' ', ' ', ' ', ' '] ++ last) ∧ last ≠ [] ∧
              last.getLast? ≠ some '\r')) := by
  intro left
  refine ⟨Text.withoutLineEnds_eq_iff text, Text.withoutLineEnds_idem text, ?_⟩
  intro w p f request path htext story
  have hempty : left = "" ↔ Text.AllLineEnds text.toList := Text.withoutLineEnds_eq_empty_iff text
  refine ⟨fun q other path' hother halike => ?_, fun hends => ?_,
    play_render_eq_ok_iff w p f ⟨request, some path⟩, fun hok => ?_⟩
  · rw [play_render_bodyFile w q p f request path' other hother,
      ← (Text.withoutLineEnds_inj text other).mpr halike]
    exact (play_render_bodyFile w p p f request path text htext).symm
  · rw [← hempty.mpr hends]
    exact play_render_bodyFile w p p f request path text htext
  · obtain ⟨r, snippet, hmerged, hbody, hassembled, hremains⟩ := render_bodyFile_of_ok htext hok
    refine ⟨r, snippet, hmerged, hassembled, hremains, ?_⟩
    rw [innerLines_of_assemble hassembled, hbody]
    refine ⟨fun hends => ?_, fun hends => ⟨?_, ?_⟩⟩
    · have hnone : Text.withoutLineEnds text = "" := hempty.mpr hends
      rw [hnone]
      exact Script.bodyLines_empty
    · exact Script.bodyLines_of_ne_empty left (mt hempty.mp hends)
    · refine Script.getLast?_bodyLines (mt hempty.mp hends) ?_
      rw [Text.toList_withoutLineEnds]
      exact Text.endsInText_dropLineEnds text.toList

/-- Two lines with one line break at their end or with some of both kinds, and a file of line breaks
alone. -/
theorem body_file_without_line_ends_ruby :
    let w : World := ⟨fun path => .ok (if path = "a" then [97, 10, 98, 10] else
      if path = "b" then [97, 10, 98, 13, 10, 10] else [10, 13]), fun _ => none, fun _ => .refused⟩
    let p : Supply := ⟨[], none⟩
    let f : Fields := ⟨some "rb", none, none, none, none, none⟩
    let played := fun path => Run.play w p (render f ⟨none, some path⟩)
    played "b" = played "a" ∧ played "c" = Run.play w p (renderBody f none "") ∧
    (played "a").result = .ok () ∧
    ∃ snippet : Snippet, (played "a").remains = .ofText "" none snippet.text ∧
      Script.innerLines snippet.language.family snippet.filePattern snippet.text =
        (Script.linesOf "a\nb").map ([' ', ' ', ' ', ' '] ++ ·) := by
  intro w p f played
  have hleft : Text.withoutLineEnds "a\nb\n" = "a\nb" := by decide +kernel
  have hother : Text.withoutLineEnds "a\nb\r\n\n" = "a\nb" := by decide +kernel
  have hends : Text.AllLineEnds "\n\r".toList :=
    (Text.withoutLineEnds_eq_empty_iff "\n\r").mp (by decide +kernel)
  have hlines : ¬Text.AllLineEnds "a\nb\n".toList := by
    rw [← Text.withoutLineEnds_eq_empty_iff, hleft]
    decide
  obtain ⟨hsame, -, hok, hleaves⟩ :=
    (body_file_without_line_ends "a\nb\n").2.2 w p f none "a" (by decide +kernel)
  obtain ⟨-, hempty, -⟩ :=
    (body_file_without_line_ends "\n\r").2.2 w p f none "c" (by decide +kernel)
  have hmerged : w.merged? p f ⟨none, some "a"⟩ =
      some ⟨"rb", none, none, "", "", "a\nb"⟩ := by decide +kernel
  obtain ⟨snippet, hassembled⟩ :=
    Request.exists_script ⟨"rb", none, none, "", "", "a\nb"⟩ (by decide +kernel)
  have hresult := hok.mpr ⟨⟨_, snippet, hmerged, hassembled⟩, w.canTake_none⟩
  obtain ⟨_, left, -, -, hremains, -, hinner⟩ := hleaves hresult
  refine ⟨hsame p "a\nb\r\n\n" "b" (by decide +kernel) ?_, hempty hends, hresult, left, hremains, ?_⟩
  · exact (Text.withoutLineEnds_inj _ _).mp (hleft.trans hother.symm)
  · rw [← hleft]
    exact (hinner hlines).1

end ScriptPress.Cli
