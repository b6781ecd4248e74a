import ScriptPress.Cli.Dialogue
import ScriptPress.Proofs.Cli.Inference
import ScriptPress.Proofs.Run.Log
import ScriptPress.Proofs.Session.History

/-!
# Example pairs on their way into a session

`generate` and the dialogue fill a session with example pairs, each in a loop of its own; both make
the same edits. What carries the loops is that before the pair with number `i` there are `i` pairs,
but for the blank one that a session starts with. Main statements: every edit hits a pair, and the
session holds exactly the pairs, in order.
-/
namespace ScriptPress

def Example.ofPair (pair : String × String) : Example := ⟨pair.1, pair.2⟩

namespace Session

def pairEdits (i : Nat) : List (String × String) → List Operation
  | [] => []
  | (before, after) :: rest =>
    (if i = 0 then [] else [.addExample]) ++
      .editInput i before :: .editOutput i after :: pairEdits (i + 1) rest

theorem run_pairEdits (i : Nat) (s : Session) (pairs : List (String × String)) :
    s.run (pairEdits i pairs) = s.withPairs i pairs := by
  induction pairs generalizing i s with
  | nil => rfl
  | cons pair rest ih =>
    obtain ⟨before, after⟩ := pair
    rw [pairEdits, withPairs, run_append, run_cons, run_cons, ih]
    by_cases hi : i = 0
    · simp only [if_pos hi, run_nil]
      rfl
    · simp only [if_neg hi]
      rfl

/-- Whether an operation is no edit of a pair that is not there. -/
def Operation.hits (s : Session) : Operation → Bool
  | .editInput i _ => decide (i < s.examples.size)
  | .editOutput i _ => decide (i < s.examples.size)
  | _ => true

/-- Whether every edit of a run hits a pair that is there at its time. -/
def allHit (s : Session) : List Operation → Bool
  | [] => true
  | op :: ops => op.hits s && allHit (s.apply op) ops

/-! ### The loop -/

/-- What holds before the pair with number `i`: there are `i` pairs, but at first a blank one. -/
def ReadyFor (s : Session) (i : Nat) : Prop :=
  if i = 0 then s.examples = Examples.initial else s.examples.size = i

theorem modify_length {α : Type} (l : List α) (x : α) (f : α → α) :
    (l ++ [x]).modify l.length f = l ++ [f x] := by
  induction l with
  | nil => rfl
  | cons y l ih => exact congrArg (y :: ·) ih

def grown (s : Session) (i : Nat) : Session := if i = 0 then s else s.addExample

theorem examples_grown (s : Session) (i : Nat) (h : s.ReadyFor i) :
    (s.grown i).examples.pairs = s.examples.pairs.take i ++ [Example.blank] ∧
      (s.examples.pairs.take i).length = i := by
  unfold ReadyFor at h
  unfold grown
  by_cases hi : i = 0
  · rw [if_pos hi] at h
    rw [if_pos hi, h, hi]
    exact ⟨rfl, rfl⟩
  · rw [if_neg hi] at h
    have hlength : s.examples.pairs.length = i := h
    rw [if_neg hi, List.take_of_length_le (by omega)]
    exact ⟨rfl, hlength⟩

/-- One pass of the loop: both edits hit, and the pair stands behind those before it. -/
theorem examples_edited (s : Session) (i : Nat) (before after : String) (h : s.ReadyFor i) :
    i < (s.grown i).examples.size ∧
      (((s.grown i).editInput i before).editOutput i after).examples.pairs =
        s.examples.pairs.take i ++ [⟨before, after⟩] := by
  obtain ⟨hgrown, hlength⟩ := examples_grown s i h
  constructor
  · rw [Examples.size, hgrown, List.length_append, hlength]
    exact Nat.lt_succ_self i
  · show ((s.grown i).examples.pairs.modify i _).modify i _ = _
    have hinput := modify_length (s.examples.pairs.take i) Example.blank
      fun p => ⟨before, p.output⟩
    have houtput := modify_length (s.examples.pairs.take i) ⟨before, Example.blank.output⟩
      fun p => ⟨p.input, after⟩
    rw [hlength] at hinput houtput
    rw [hgrown, hinput, houtput]

theorem readyFor_edited (s : Session) (i : Nat) (before after : String) (h : s.ReadyFor i) :
    (((s.grown i).editInput i before).editOutput i after).ReadyFor (i + 1) := by
  rw [ReadyFor, if_neg (Nat.succ_ne_zero i), Examples.size, (examples_edited s i before after h).2,
    List.length_append, (examples_grown s i h).2]
  rfl

theorem withPairs_cons (i : Nat) (s : Session) (before after : String)
    (rest : List (String × String)) :
    s.withPairs i ((before, after) :: rest) =
      (((s.grown i).editInput i before).editOutput i after).withPairs (i + 1) rest := rfl

theorem allHit_pairEdits (i : Nat) (s : Session) (pairs : List (String × String))
    (h : s.ReadyFor i) : s.allHit (pairEdits i pairs) = true := by
  induction pairs generalizing i s with
  | nil => rfl
  | cons pair rest ih =>
    obtain ⟨before, after⟩ := pair
    have hin := (examples_edited s i before after h).1
    have hrest := ih (i + 1) _ (readyFor_edited s i before after h)
    have hsize : ((s.grown i).editInput i before).examples.size = (s.grown i).examples.size :=
      Examples.size_withInput _ i before
    have hedits : (s.grown i).allHit
        (.editInput i before :: .editOutput i after :: pairEdits (i + 1) rest) = true := by
      simp only [allHit, Operation.hits, apply, hsize, hin, decide_true, Bool.true_and]
      exact hrest
    -- the first pair is put in place of the blank one, the others are added
    rw [pairEdits]
    unfold grown at hedits
    by_cases hi : i = 0
    · rw [if_pos hi] at hedits ⊢
      exact hedits
    · rw [if_neg hi] at hedits ⊢
      exact hedits

theorem pairs_withPairs (i : Nat) (s : Session) (pairs : List (String × String))
    (h : s.ReadyFor i) (hne : i = 0 → pairs ≠ []) :
    (s.withPairs i pairs).examples.pairs =
      s.examples.pairs.take i ++ pairs.map Example.ofPair := by
  induction pairs generalizing i s with
  | nil =>
    have hi : i ≠ 0 := fun hi => hne hi rfl
    rw [ReadyFor, if_neg hi] at h
    have hlength : s.examples.pairs.length ≤ i := Nat.le_of_eq h
    rw [List.take_of_length_le hlength, List.map_nil, List.append_nil]
    rfl
  | cons pair rest ih =>
    obtain ⟨before, after⟩ := pair
    have hready := readyFor_edited s i before after h
    rw [withPairs_cons, ih (i + 1) _ hready (fun hi => absurd hi (Nat.succ_ne_zero i))]
    rw [ReadyFor, if_neg (Nat.succ_ne_zero i)] at hready
    have hlength := Nat.le_of_eq hready
    rw [Examples.size] at hlength
    rw [List.take_of_length_le hlength, (examples_edited s i before after h).2, List.append_assoc]
    rfl

/-- The question for a body holds the pairs that were put in, and nothing else. -/
theorem bodyQuery_withPairs (s : Session) (pairs : List (String × String))
    (h : s.examples = Examples.initial) (hne : pairs ≠ []) :
    (s.withPairs 0 pairs).bodyQuery.2 =
      ⟨s.extension, pairs.map Prod.fst, pairs.map Prod.snd⟩ := by
  have hpairs := pairs_withPairs 0 s pairs h fun _ => hne
  obtain ⟨examples, revision, hframe⟩ := withPairs_frame 0 s pairs
  rw [hframe] at hpairs ⊢
  simp only [List.take_zero, List.nil_append] at hpairs
  simp only [bodyQuery, Examples.inputs, Examples.outputs, hpairs, List.map_map]
  rfl

end Session

/-! ### The questions of the dialogue -/

namespace Cli

open Prompt (Question)

def inputQuestion (i : Nat) : Question :=
  requiredEntry ("Input example #" ++ toString (i + 1) ++ " (file)")

def outputQuestion (i : Nat) : Question :=
  requiredEntry ("Output example #" ++ toString (i + 1) ++ " (file)")

def moreQuestion : Question := .confirmation "Add another example?" false

theorem admits_requiredEntry_iff (title : String) (text : String) :
    (requiredEntry title).Admits text ↔ text ≠ "" := by
  show (true = true → text ≠ "") ∧ none = none ↔ text ≠ ""
  simp

/-- The log of one pass of the loop that asks for example files: the texts of the pair are read, and
the last answer says whether there is another one. -/
inductive PairAsked (i : Nat) (pair : String × String) (more : Bool) : List Happening → Prop where
  | read {inputPath outputPath : String} {inputRead outputRead : Happening}
      (hin : inputPath ≠ "") (hout : outputPath ≠ "")
      (hinput : inputRead.Gives inputPath pair.1) (houtput : outputRead.Gives outputPath pair.2) :
      PairAsked i pair more
        [.answered (inputQuestion i) inputPath, inputRead,
          .answered (outputQuestion i) outputPath, outputRead, .answered moreQuestion more]

/-- The log of the loop from the pair with a number on, and the pairs whose texts were read in it.
Another pair follows exactly as long as one is wanted and the limit is not reached. -/
inductive PairLog : Nat → Nat → List (String × String) → List Happening → Prop where
  | stopped (i : Nat) : PairLog 0 i [] []
  | last {limit i : Nat} {pair : String × String} {log : List Happening}
      (h : PairAsked i pair false log) : PairLog (limit + 1) i [pair] log
  | more {limit i : Nat} {pair : String × String} {rest : List (String × String)}
      {log later : List Happening} (h : PairAsked i pair true log)
      (hrest : PairLog limit (i + 1) rest later) : PairLog (limit + 1) i (pair :: rest) (log ++ later)

theorem PairLog.ne_nil {limit i : Nat} {pairs : List (String × String)} {log : List Happening}
    (h : PairLog (limit + 1) i pairs log) : pairs ≠ [] := by
  cases h with
  | last h => exact List.cons_ne_nil _ _
  | more h hrest => exact List.cons_ne_nil _ _

theorem ends_askPair_iff {α : Type} (i : Nat) (next : String → String → Bool → Run α) (a : α)
    (log : List Happening) :
    (do
      let input ← Run.answer (inputQuestion i)
      let before ← Run.source input
      let output ← Run.answer (outputQuestion i)
      let after ← Run.source output
      let more : Bool ← Run.answer moreQuestion
      next before after more : Run α).Ends log (.ok a) ↔
    ∃ pair more asked later, PairAsked i pair more asked ∧
      (next pair.1 pair.2 more).Ends later (.ok a) ∧ log = asked ++ later := by
  constructor
  · intro h
    obtain ⟨inputPath, hin, _, h₁, rfl⟩ := (Run.ends_answer_bind_iff (inputQuestion i) _ log a).mp h
    obtain ⟨inputRead, before, hinput, _, h₂, rfl⟩ :=
      (Run.ends_source_bind_iff inputPath _ _ a).mp h₁
    obtain ⟨outputPath, hout, _, h₃, rfl⟩ :=
      (Run.ends_answer_bind_iff (outputQuestion i) _ _ a).mp h₂
    obtain ⟨outputRead, after, houtput, _, h₄, rfl⟩ :=
      (Run.ends_source_bind_iff outputPath _ _ a).mp h₃
    obtain ⟨more, -, later, h₅, rfl⟩ := (Run.ends_answer_bind_iff moreQuestion _ _ a).mp h₄
    exact ⟨(before, after), more, _, later, .read ((admits_requiredEntry_iff _ _).mp hin)
      ((admits_requiredEntry_iff _ _).mp hout) hinput houtput, h₅, rfl⟩
  · rintro ⟨⟨before, after⟩, more, _, later, ⟨hin, hout, hinput, houtput⟩, hlater, rfl⟩
    refine (Run.ends_answer_bind_iff (inputQuestion i) _ _ a).mpr
      ⟨_, (admits_requiredEntry_iff _ _).mpr hin, _, ?_, rfl⟩
    refine (Run.ends_source_bind_iff _ _ _ a).mpr ⟨_, before, hinput, _, ?_, rfl⟩
    refine (Run.ends_answer_bind_iff (outputQuestion i) _ _ a).mpr
      ⟨_, (admits_requiredEntry_iff _ _).mpr hout, _, ?_, rfl⟩
    refine (Run.ends_source_bind_iff _ _ _ a).mpr ⟨_, after, houtput, _, ?_, rfl⟩
    exact (Run.ends_answer_bind_iff moreQuestion _ _ a).mpr ⟨more, trivial, later, hlater, rfl⟩

/-- The loop reads pairs and puts all of them into the session, and stops for no other reason. -/
theorem ends_askPairs_iff (limit i : Nat) (s t : Session) (log : List Happening) :
    (askPairs limit i s).Ends log (.ok t) ↔
      ∃ pairs, PairLog limit i pairs log ∧ t = s.withPairs i pairs := by
  induction limit generalizing i s log with
  | zero =>
    rw [askPairs, Run.ends_done_iff]
    constructor
    · rintro ⟨rfl, rfl⟩
      exact ⟨[], .stopped i, rfl⟩
    · rintro ⟨_, ⟨⟩, rfl⟩
      exact ⟨rfl, rfl⟩
  | succ limit ih =>
    refine (ends_askPair_iff i (fun before after more =>
      let edited := ((s.grown i).editInput i before).editOutput i after
      if more then askPairs limit (i + 1) edited else return edited) t log).trans ?_
    constructor
    · rintro ⟨pair, more, asked, later, hasked, hlater, rfl⟩
      cases more with
      | true =>
        obtain ⟨rest, hrest, rfl⟩ := (ih _ _ later).mp hlater
        exact ⟨pair :: rest, .more hasked hrest, rfl⟩
      | false =>
        obtain ⟨rfl, rfl⟩ := (Run.ends_pure_iff _ t later).mp hlater
        rw [List.append_nil]
        exact ⟨[pair], .last hasked, rfl⟩
    · rintro ⟨_, hlog, rfl⟩
      cases hlog with
      | @last _ _ pair log hasked =>
        exact ⟨pair, false, log, [], hasked, (Run.ends_pure_iff _ _ []).mpr ⟨rfl, rfl⟩,
          (List.append_nil log).symm⟩
      | @more _ _ pair rest log later hasked hrest =>
        exact ⟨pair, true, log, later, hasked, (ih _ _ later).mpr ⟨rest, hrest, rfl⟩, rfl⟩

end Cli
end ScriptPress
